import ContainerWatch.Proofs.Watcher.Closing
import ContainerWatch.Proofs.Watcher.Delivery
import ContainerWatch.Proofs.Watcher.Lines
/-!
# What the watcher takes and what it logs

Every reading that the watcher takes has its lines in the log, in the order of the stream, and one more line says
why it stopped: a send failed, or the stream was at its end.  It stops there, so a failed send is the last thing
that it does, and the reading that gave the refused change is the last one that it takes.

Two invariants of the watcher carry the account: the log holds the notices of what was taken, and one more when the
watcher has stopped (`Watcher.Accounted`), and the change that it holds comes from the last reading taken
(`Watcher.HoldsLast`).  Which of the two last lines there is, is read off the state that the run has met before the
last step (`Exchange.Meets`).

Main statement: `Exchange.account_of_run`.
-/

namespace ContainerWatch

namespace Watcher

/-- The lines that the watcher has put into the log. -/
def log (w : Watcher) : List Log.Line := w.notices.map Notice.line

/-! ## The log -/

/-- The log holds the notices of what was taken, and one more once the watcher has stopped. -/
structure Accounted (w : Watcher) : Prop where
  active : w.phase ≠ .stopped → w.notices = w.taken.filterMap Reading.notice?
  stopped : w.phase = .stopped → ∃ last, w.notices = w.taken.filterMap Reading.notice? ++ [last]

/-- What the stream and the receiver do is not logged. -/
theorem Accounted.of_stays {w v : Watcher} (hw : w.Accounted) (h : w.Stays v) : v.Accounted := by
  obtain ⟨hphase, htaken, hnotices, -⟩ := h
  refine ⟨fun hactive => ?_, fun hstopped => ?_⟩
  · rw [hnotices, htaken]
    exact hw.active (hphase ▸ hactive)
  · rw [hnotices, htaken]
    exact hw.stopped (hphase ▸ hstopped)

/-- A step that takes a reading adds its notice, and a step that stops adds the last one. -/
theorem Accounted.of_step {w v : Watcher} (hw : w.Accounted) (h : w.Step v) : v.Accounted := by
  -- a watcher that makes a step has not stopped, so its log has no last notice yet
  have hactive : w.notices = w.taken.filterMap Reading.notice? :=
    hw.active fun hstopped => not_step_of_stopped hstopped h
  cases h with
  | start => exact ⟨fun _ => hactive, nofun⟩
  | send hphase | wait hphase =>
    exact ⟨fun _ => hactive, fun hstopped => absurd (hphase.symm.trans hstopped) nofun⟩
  | refuse | finish => exact ⟨fun h => absurd rfl h, fun _ => ⟨_, congrArg (· ++ [_]) hactive⟩⟩
  | @take r rest hphase =>
    refine ⟨fun _ => ?_, fun hstopped => absurd (hphase.symm.trans hstopped) nofun⟩
    rw [take, List.filterMap_append, ← hactive, Reading.filterMap_notice?_cons]
    exact congrArg (w.notices ++ ·) (List.append_nil _).symm

/-- The change that the watcher holds is the one of the last reading that it has taken. -/
def HoldsLast (w : Watcher) : Prop :=
  ∀ e ∈ w.channel.held, ∃ before r, w.taken = before ++ [r] ∧ r.change? = some e

/-- The change that is held stays the same while the stream and the receiver move. -/
theorem HoldsLast.of_stays {w v : Watcher} (hw : w.HoldsLast) (h : w.Stays v) : v.HoldsLast := by
  intro e he
  rw [h.taken]
  exact hw e (h.held ▸ he)

/-- A change is held from the step that takes its reading until it is sent or refused, and no reading is taken in
between. -/
theorem HoldsLast.of_step {w v : Watcher} (hw : w.HoldsLast) (h : w.Step v) : v.HoldsLast := by
  cases h with
  | start | finish => exact hw
  | send | refuse => exact fun e he => absurd he List.not_mem_nil
  | wait _ hoffer =>
    intro e he
    refine hw e ?_
    rw [held_of_some hoffer]
    exact he
  | @take r rest _ hoffer =>
    intro e he
    rw [held_take hoffer] at he
    exact ⟨w.taken, r, rfl, Option.mem_toList.1 he⟩

end Watcher

namespace Exchange

/-! ## Runs -/

/-- At any point of any schedule the log holds the notices of what was taken. -/
theorem accounted_of_run {capacity : Nat} {moves : List Move} {x : Exchange}
    (h : (start capacity).run? moves = some x) : x.watcher.Accounted := by
  have hstart : (start capacity).watcher.Accounted := ⟨fun _ => rfl, nofun⟩
  exact watcher_invariant_of_run .of_step .of_stays hstart h

/-- At any point of any schedule the change that is held is that of the last reading taken. -/
theorem holdsLast_of_run {capacity : Nat} {moves : List Move} {x : Exchange}
    (h : (start capacity).run? moves = some x) : x.watcher.HoldsLast := by
  have hstart : (start capacity).watcher.HoldsLast := fun e he => absurd he List.not_mem_nil
  exact watcher_invariant_of_run .of_step .of_stays hstart h

/-- A watcher that found the stream at its end has taken all that the stream gives. -/
theorem taken_of_meets_atEnd {capacity : Nat} {moves : List Move} {x : Exchange}
    (hmeets : (start capacity).Meets moves Watcher.AtEnd) (h : (start capacity).run? moves = some x) :
    x.watcher.taken = supplied moves := by
  obtain ⟨-, -, before, after, z, rfl, hz, hend, hafter, htaken⟩ :=
    stopped_of_meets (fun _ => Watcher.AtEnd.stopsWith) hmeets h
  -- before the last step everything that the stream had given was taken, and afterwards it gave nothing more
  have hsupplied : z.watcher.taken ++ z.watcher.upcoming = supplied before := taken_append_upcoming_of_run hz
  rw [hend.upcoming, List.append_nil] at hsupplied
  rw [htaken, hsupplied, supplied, supplied, List.filterMap_append]
  exact (List.append_nil _).symm.trans (congrArg _ (supplied_of_ended hend.ended hafter).symm)

/-- The last reading that was taken before a send failed gives a change. -/
theorem change_of_meets_refused {capacity : Nat} {moves : List Move} {x : Exchange}
    (hmeets : (start capacity).Meets moves Watcher.Refused) (h : (start capacity).run? moves = some x) :
    ∃ before r e, x.watcher.taken = before ++ [r] ∧ r.change? = some e := by
  obtain ⟨-, -, before, after, z, rfl, hz, hrefused, -, htaken⟩ :=
    stopped_of_meets (fun _ => Watcher.Refused.stopsWith) hmeets h
  obtain ⟨o, hoffer⟩ := Option.ne_none_iff_exists'.1 hrefused.offer
  have hheld : o.item ∈ z.watcher.channel.held := Watcher.held_of_some hoffer ▸ List.mem_cons_self
  obtain ⟨taken, r, hlast, hchange⟩ := holdsLast_of_run hz o.item hheld
  exact ⟨taken, r, o.item, htaken.trans hlast, hchange⟩

/-- The last line of a watcher that has stopped tells which of the two ends the run has met, and it has met one of
them and not the other: there is one last notice, and each end would make its own. -/
theorem last_of_stopped {capacity : Nat} {moves : List Move} {x : Exchange}
    (h : (start capacity).run? moves = some x) (hstopped : x.watcher.phase = .stopped) :
    ∃ last, x.watcher.log = x.watcher.taken.flatMap Reading.lines ++ [last] ∧
      (last = ⟨.info, Notice.watcherTarget, "Container event stream ended", []⟩ ↔
        (start capacity).Meets moves Watcher.AtEnd) ∧
      (last = ⟨.info, Notice.watcherTarget, "Change event receiver closed, stopping watcher", []⟩ ↔
        (start capacity).Meets moves Watcher.Refused) ∧
      ((start capacity).Meets moves Watcher.AtEnd ↔ ¬ (start capacity).Meets moves Watcher.Refused) := by
  obtain ⟨last, hnotices⟩ := (accounted_of_run h).stopped hstopped
  have hlog : x.watcher.log = x.watcher.taken.flatMap Reading.lines ++ [last.line] := by
    rw [Watcher.log, hnotices, List.map_append, Reading.map_filterMap_notice?]
    rfl
  have hlast : x.watcher.notices.getLast? = some last := by rw [hnotices, List.getLast?_concat]
  -- each end settles the last notice, so the two ends cannot both be met
  have hline {P : Watcher → Prop} {n : Notice} (hP : ∀ w, P w → w.StopsWith n)
      (hmeets : (start capacity).Meets moves P) : last = n :=
    Option.some.inj (hlast.symm.trans (stopped_of_meets hP hmeets h).2.1)
  have hend := hline fun _ => Watcher.AtEnd.stopsWith
  have hrefused := hline fun _ => Watcher.Refused.stopsWith
  refine ⟨last.line, hlog, ?_⟩
  obtain hmeets | hmeets := meets_of_stopped (x := start capacity) nofun h hstopped
  · obtain rfl := hrefused hmeets
    have hnot : ¬ (start capacity).Meets moves Watcher.AtEnd := fun hother => nomatch hend hother
    refine ⟨⟨fun heq => absurd heq (by decide), fun hother => absurd hother hnot⟩, ⟨fun _ => hmeets, fun _ => rfl⟩,
      fun hother => absurd hother hnot, fun hother => absurd hmeets hother⟩
  · obtain rfl := hend hmeets
    have hnot : ¬ (start capacity).Meets moves Watcher.Refused := fun hother => nomatch hrefused hother
    exact ⟨⟨fun _ => hmeets, fun _ => rfl⟩, ⟨fun heq => absurd heq (by decide), fun hother => absurd hother hnot⟩,
      fun _ => hnot, fun _ => hmeets⟩

/-! ## The account -/

/-- What the watcher takes and logs, at the end of any schedule.  The first part compares the end of the schedule with
any earlier point of it. -/
theorem account_of_run {capacity : Nat} {moves : List Move} {x : Exchange}
    (h : (start capacity).run? moves = some x) :
    (∀ before after y, moves = before ++ after → (start capacity).run? before = some y →
      -- after a send that failed nothing is taken
      ((start capacity).Meets before Watcher.Refused → x.watcher.taken = y.watcher.taken) ∧
      -- after the receiver has closed nothing is taken but what is reached
      (y.watcher.channel.receiver ≠ .listening →
        x.watcher.taken <+: y.watcher.taken ++ y.watcher.reach (supplied after))) ∧
    -- and a watcher that can run takes all of it
    (x.watcher.channel.receiver ≠ .listening →
      x.watcher.poll.taken = x.watcher.taken ++ x.watcher.reach []) ∧
    -- every reading has its lines, and the log holds those of the readings taken and nothing else before the last
    (∀ (r : Reading) ls, r.Logs ls ↔ ls = r.lines) ∧
    (x.watcher.phase ≠ .stopped → x.watcher.log = x.watcher.taken.flatMap Reading.lines) ∧
    (x.watcher.phase = .stopped → ∃ last, x.watcher.log = x.watcher.taken.flatMap Reading.lines ++ [last] ∧
      (last = ⟨.info, Notice.watcherTarget, "Container event stream ended", []⟩ ↔
        (start capacity).Meets moves Watcher.AtEnd) ∧
      (last = ⟨.info, Notice.watcherTarget, "Change event receiver closed, stopping watcher", []⟩ ↔
        (start capacity).Meets moves Watcher.Refused) ∧
      ((start capacity).Meets moves Watcher.AtEnd ↔ ¬ (start capacity).Meets moves Watcher.Refused)) ∧
    -- all readings were taken at the end of the stream, and those up to the refused change when a send failed
    ((start capacity).Meets moves Watcher.AtEnd → x.watcher.taken = supplied moves) ∧
    ((start capacity).Meets moves Watcher.Refused →
      ∃ before r e, x.watcher.taken = before ++ [r] ∧ r.change? = some e) := by
  refine ⟨fun before after y hmoves hbefore => ?_, Watcher.taken_poll, fun _ _ => Reading.logs_iff,
    fun hactive => ?_, last_of_stopped h, (taken_of_meets_atEnd · h), (change_of_meets_refused · h)⟩
  · obtain rfl := hmoves
    rw [run_append, hbefore, Option.bind_some] at h
    refine ⟨fun hmeets => ?_, fun hreceiver => ?_⟩
    · have hstopped := (stopped_of_meets (fun _ => Watcher.Refused.stopsWith) hmeets hbefore).1
      exact (stays_of_stopped hstopped h).taken
    · obtain ⟨new, htaken, hreach⟩ := exists_reach_of_run hreceiver h
      rw [htaken, hreach, ← List.append_assoc]
      exact List.prefix_append _ _
  · rw [Watcher.log, (accounted_of_run h).active hactive]
    exact Reading.map_filterMap_notice? x.watcher.taken

/-- A failure, a change, something else and a second change, through a channel with room for one, whose receiver
closes while the second change waits; what the stream gives then is not taken. -/
def refusedMoves : List Move :=
  [.advance, .supply (.failure .stream), .supply (exampleReading "create"),
    .supply (exampleReading "exec_start: sh"), .supply (exampleReading "die"), .supply (exampleReading "start"),
    .advance, .advance, .advance, .advance, .advance, .advance, .close, .advance]

theorem isSome_run_refusedMoves : ((start 1).run? refusedMoves).isSome := by decide +kernel

theorem isSome_run_dropLast_refusedMoves : ((start 1).run? refusedMoves.dropLast).isSome := by decide +kernel

/-- The last move finds the second change held and the receiver closed. -/
theorem meets_refusedMoves : (start 1).Meets refusedMoves Watcher.Refused := by
  refine ⟨refusedMoves.dropLast, [], _, rfl, (Option.some_get isSome_run_dropLast_refusedMoves).symm, ?_⟩
  exact ⟨by decide +kernel, by decide +kernel, by decide +kernel⟩

theorem isSome_run_take_exampleMoves : ((start 1).run? (exampleMoves.take 14)).isSome := by decide +kernel

/-- The last step of the watcher finds the stream at its end. -/
theorem meets_exampleMoves : (start 1).Meets exampleMoves Watcher.AtEnd := by
  refine ⟨exampleMoves.take 14, [.receive], _, rfl, (Option.some_get isSome_run_take_exampleMoves).symm, ?_⟩
  exact ⟨by decide +kernel, by decide +kernel, by decide +kernel, by decide +kernel⟩

/-- The watcher has stopped at the second change, the last of its five lines says why, and after the receiver had
closed it took nothing but what it could reach; and a stream that ends is taken whole. -/
theorem account_refusedMoves :
    (∃ x y, (start 1).run? refusedMoves = some x ∧ (start 1).run? refusedMoves.dropLast = some y ∧
      x.watcher.phase = .stopped ∧ x.watcher.taken.length = 4 ∧
      x.watcher.log = x.watcher.taken.flatMap Reading.lines ++
        [⟨.info, Notice.watcherTarget, "Change event receiver closed, stopping watcher", []⟩] ∧
      (∃ before r e, x.watcher.taken = before ++ [r] ∧ r.change? = some e) ∧
      y.watcher.channel.receiver = .closed ∧
      x.watcher.taken <+: y.watcher.taken ++ y.watcher.reach (supplied [.advance])) ∧
    ∃ x, (start 1).run? exampleMoves = some x ∧ x.watcher.taken = supplied exampleMoves := by
  refine ⟨?_, ?_⟩
  · have hrun := (Option.some_get isSome_run_refusedMoves).symm
    have hbefore := (Option.some_get isSome_run_dropLast_refusedMoves).symm
    obtain ⟨hpoints, -, -, -, hlast, -, hchange⟩ := account_of_run hrun
    obtain ⟨last, hlog, -, hrefused, -⟩ := hlast (by decide +kernel)
    obtain rfl := hrefused.2 meets_refusedMoves
    refine ⟨_, _, hrun, hbefore, by decide +kernel, by decide +kernel, hlog, hchange meets_refusedMoves,
      by decide +kernel, ?_⟩
    exact (hpoints refusedMoves.dropLast [.advance] _ rfl hbefore).2 (by decide +kernel)
  · have hrun := (Option.some_get isSome_run_exampleMoves).symm
    obtain ⟨-, -, -, -, -, hwhole, -⟩ := account_of_run hrun
    exact ⟨_, hrun, hwhole meets_exampleMoves⟩

end Exchange

end ContainerWatch
