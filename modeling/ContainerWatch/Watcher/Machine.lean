import ContainerWatch.Watcher.Channel
import ContainerWatch.Watcher.Notice
/-!
# The watcher

The watcher reads the engine's stream and sends every change of a container's state into a bounded
channel.  It takes the next reading only when the last change was sent, leaves out readings that give no
change, and stops when the stream ends or a change is refused.  It works in single steps (`advance?`), so
that the receiver may come in between any two of them; `poll` makes steps until the watcher waits or has
stopped.

Main statements: every step uses up some of the work that is left (`work_advance_lt`), as does every
item that the receiver takes (`work_receive_lt`).
-/

namespace ContainerWatch

/-- How far the watcher is. -/
inductive Phase where
  /-- the stream is not open yet -/
  | ready
  | running
  | stopped
  deriving DecidableEq, Repr

/-- A watcher with the stream that it reads and the channel that it sends into. -/
structure Watcher where
  channel : Channel ChangeEvent
  /-- what the stream holds and the watcher has not taken -/
  upcoming : List Reading := []
  /-- whether the stream ends after what it holds -/
  ended : Bool := false
  phase : Phase := .ready
  /-- what the watcher has taken, in order -/
  taken : List Reading := []
  /-- what the watcher has put into the log, in order -/
  notices : List Notice := []

namespace Watcher

/-- A watcher of a stream that has not begun, sending into a new channel. -/
def new? (capacity : Nat) : Option Watcher := (Channel.open? capacity).map fun channel => { channel }

/-- The watcher stopped with a last notice. -/
def stop (w : Watcher) (n : Notice) : Watcher :=
  { w with phase := .stopped, notices := w.notices ++ [n] }

/-- The watcher takes a reading, which it notes, and offers the change that it gives. -/
def take (w : Watcher) (r : Reading) (rest : List Reading) : Watcher :=
  { w with
    upcoming := rest
    taken := w.taken ++ [r]
    notices := w.notices ++ r.notice?.toList
    channel := match r.change? with
      | some event => w.channel.propose event
      | none => w.channel }

/-- What becomes of the watcher when it looks after a change that it has offered; none when it goes on
waiting. -/
def send? (w : Watcher) (o : Offer ChangeEvent) : Option Watcher :=
  match w.channel.settle o with
  | .sent channel => some { w with channel }
  | .refused channel => some (stop { w with channel } .receiverClosed)
  | .waiting channel => if o.ticket = .fresh then some { w with channel } else none

/-- The next step of the watcher, none when it waits or has stopped. -/
def advance? (w : Watcher) : Option Watcher :=
  match w.phase with
  | .stopped => none
  | .ready => some { w with phase := .running }
  | .running =>
    match w.channel.offer with
    | some o => w.send? o
    | none =>
      match w.upcoming with
      | r :: rest => some (w.take r rest)
      | [] => if w.ended then some (w.stop .streamEnded) else none

/-! ## Work left -/

/-- The work that an offered change still makes. -/
def offerWork (o : Option (Offer ChangeEvent)) : Nat :=
  match o with
  | none => 0
  | some ⟨_, .fresh⟩ => 3
  | some _ => 2

/-- The work that the start and the end of the watcher still make. -/
def phaseWork : Phase → Nat
  | .ready => 2
  | .running => 1
  | .stopped => 0

/-- The work that is left for the watcher and its receiver. -/
def work (w : Watcher) : Nat :=
  4 * w.upcoming.length + offerWork w.channel.offer + w.channel.buffered.length + phaseWork w.phase

theorem offerWork_some_pos (o : Offer ChangeEvent) : 2 ≤ offerWork (some o) := by
  obtain ⟨item, ticket⟩ := o
  cases ticket <;> simp [offerWork]

theorem work_take_lt (w : Watcher) (r : Reading) (rest : List Reading) (hu : w.upcoming = r :: rest)
    (ho : w.channel.offer = none) : (w.take r rest).work < w.work := by
  cases hc : r.change? with
  | some event =>
    simp only [take, work, hc, hu, ho, List.length_cons, Channel.propose, offerWork]
    omega
  | none =>
    simp only [take, work, hc, hu, ho, List.length_cons, offerWork]
    omega

theorem work_send_lt {w v : Watcher} {o : Offer ChangeEvent} (hp : w.phase = .running)
    (ho : w.channel.offer = some o) (h : w.send? o = some v) : v.work < w.work := by
  have hpos := offerWork_some_pos o
  unfold send? Channel.settle at h
  by_cases hr : w.channel.receiver ≠ .listening
  · simp only [if_pos hr, Option.some.injEq] at h
    subst h
    simp only [work, stop, ho, hp, phaseWork, offerWork] at hpos ⊢
    omega
  · simp only [if_neg hr] at h
    by_cases hroom : o.ticket = .admitted ∨ w.channel.hasRoom = true
    · simp only [if_pos hroom, Option.some.injEq] at h
      subst h
      simp only [work, ho, offerWork, List.length_append, List.length_singleton] at hpos ⊢
      omega
    · simp only [if_neg hroom] at h
      split at h
      · rename_i hfresh
        obtain ⟨item, ticket⟩ := o
        subst hfresh
        cases h
        simp only [work, ho, offerWork]
        omega
      · simp at h

/-- A step of the watcher leaves less work. -/
theorem work_advance_lt {w v : Watcher} (h : w.advance? = some v) : v.work < w.work := by
  unfold advance? at h
  split at h
  · simp at h
  · rename_i hp
    cases h
    simp [work, phaseWork, hp]
  · rename_i hp
    split at h
    · rename_i o ho
      exact work_send_lt hp ho h
    · rename_i ho
      split at h
      · rename_i r rest hu
        cases h
        exact work_take_lt w r rest hu ho
      · split at h
        · cases h
          simp only [work, stop, hp, phaseWork]
          omega
        · simp at h

/-! ## Running -/

/-- Steps of the watcher until it waits or has stopped. -/
def poll (w : Watcher) : Watcher :=
  match h : w.advance? with
  | some v =>
    have := work_advance_lt h
    v.poll
  | none => w
termination_by w.work

/-- Whether the watcher has not stopped. -/
def isActive (w : Watcher) : Bool := w.phase != .stopped

/-- The receiver looks for a change. -/
def receive (w : Watcher) : Watcher × Received ChangeEvent :=
  let (channel, found) := w.channel.receive w.isActive
  ({ w with channel }, found)

theorem offerWork_grant_le (c : Channel ChangeEvent) : offerWork c.grant ≤ offerWork c.offer := by
  cases h : c.offer with
  | none => simp [Channel.grant, h]
  | some o =>
    obtain ⟨item, ticket⟩ := o
    simp only [Channel.grant, h, Option.map_some]
    split
    · rename_i hq
      simp [offerWork, hq.1]
    · exact Nat.le_refl _

/-- A change that is received leaves less work. -/
theorem work_receive_lt {w v : Watcher} {e : ChangeEvent} (h : w.receive = (v, .item e)) :
    v.work < w.work := by
  cases hc : w.channel.receive w.isActive with
  | mk channel found =>
    simp only [receive, hc, Prod.mk.injEq] at h
    obtain ⟨rfl, rfl⟩ := h
    obtain ⟨hbuffered, hoffer⟩ := Channel.receive_eq_item hc
    have hle := offerWork_grant_le w.channel
    simp only [work, hbuffered, hoffer, List.length_cons]
    omega

/-- Running the watcher makes no work. -/
theorem work_poll_le (w : Watcher) : w.poll.work ≤ w.work := by
  fun_induction poll w with
  | case1 w v _ hlt ih => exact Nat.le_trans ih (Nat.le_of_lt hlt)
  | case2 w _ => exact Nat.le_refl _

/-- Runs the watcher and receives what it sends, until there is nothing more to receive.  Gives the
watcher as it is then, and the changes in the order in which they were received. -/
def drain (w : Watcher) : Watcher × List ChangeEvent :=
  match h : w.poll.receive with
  | (v, .item event) =>
    have := Nat.lt_of_lt_of_le (work_receive_lt h) (work_poll_le w)
    let (last, events) := v.drain
    (last, event :: events)
  | (v, _) => (v, [])
termination_by w.work

end Watcher

end ContainerWatch
