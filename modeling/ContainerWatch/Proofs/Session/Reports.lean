import ContainerWatch.Proofs.Session.Course
import ContainerWatch.Proofs.Watcher.Lead
/-!
# What a session reports

While a session watches, two tasks take turns in any order: the watcher, and the loop that receives what the
watcher sends and reports it (`Session.Live`).  The loop keeps its receiver until it is told that nothing will
come.  A schedule of the two is a schedule of the watcher and its receiver, and the lines of the session tell
what was received.

What is known about exchanges is carried over: the prefix at every point, the whole at the end, and the bound on the
steps.  For this a session keeps the invariant that its loop ends only after the watcher has stopped and everything is
received (`Live.Sound`), and each of its moves is a move of an exchange that it matches (`Live.Matches`).

Main statement: `Session.reports_of_run`, the lines report the changes of the stream, in order and each once,
all of them as information, in every schedule, and the session as it runs is no exception.
-/

namespace ContainerWatch

/-- The line that reports a change as information. -/
def ChangeEvent.information (e : ChangeEvent) : Log.Line :=
  ⟨.info, Session.target, e.text, [("event_type", e.type.name)]⟩

/-- A change that a message announces is reported as information, since such a message never says that something went
wrong. -/
theorem ChangeEvent.report_eq_information {r : Reading} {e : ChangeEvent} (h : r.change? = some e) :
    e.report = e.information :=
  congrArg (fun level => (⟨level, Session.target, e.text, [("event_type", e.type.name)]⟩ : Log.Line))
    (level_report h)

/-- The changes of a stream are reported as information, and so are those at its beginning. -/
theorem map_report_eq_of_prefix {rs : List Reading} {es : List ChangeEvent} (h : es <+: changes rs) :
    es.map ChangeEvent.report = es.map ChangeEvent.information := by
  refine List.map_congr_left fun e he => ?_
  obtain ⟨r, _, hr⟩ := List.mem_filterMap.1 (h.subset he)
  exact ChangeEvent.report_eq_information hr

namespace Session

/-! ## Two tasks -/

/-- A session while it watches. -/
structure Live where
  /-- the watcher with its channel, which works beside the session -/
  watcher : Watcher
  /-- the lines that the session has written -/
  lines : List Log.Line
  /-- whether the loop was told that nothing will come -/
  isOver : Bool := false

namespace Live

/-- The loop looks for a change and reports the one that it finds; none when it has to wait or has ended. -/
def receive? (x : Live) : Option Live :=
  if x.isOver then none
  else
    match x.watcher.receive with
    | (w, .item e) => some { x with watcher := w, lines := x.lines ++ [e.report] }
    | (_, .empty) => none
    | (w, .disconnected) | (w, .dropped) => some { x with watcher := w, isOver := true }

/-- A move of a session, none when it cannot be made.  The loop never closes its receiver. -/
def step? (x : Live) : Move → Option Live
  | .advance => x.watcher.advance?.map fun w => { x with watcher := w }
  | .supply r =>
    if x.watcher.ended then none
    else some { x with watcher := { x.watcher with upcoming := x.watcher.upcoming ++ [r] } }
  | .finish => some { x with watcher := { x.watcher with ended := true } }
  | .receive => x.receive?
  | .close | .drop => none

/-- The moves of a schedule one after another. -/
def run? (x : Live) : List Move → Option Live
  | [] => some x
  | m :: moves => (x.step? m).bind fun y => y.run? moves

/-- The lines of a session before it reports anything. -/
def opening (s : EngineSettings) : List Log.Line := [s.connecting, watching]

/-- A session that starts to watch. -/
def start (s : EngineSettings) : Live where
  watcher := { channel := { capacity := s.eventBuffer } }
  lines := opening s

theorem run_append (x : Live) (moves more : List Move) :
    x.run? (moves ++ more) = (x.run? moves).bind fun y => y.run? more := by
  induction moves generalizing x with
  | nil => rfl
  | cons m moves ih =>
    rw [List.cons_append, run?, run?, Option.bind_assoc]
    exact congrArg _ (funext fun y => ih y)

/-! ## What the loop does -/

/-- A loop that listens reports the oldest change in the channel; when there is none it waits, or ends when
the watcher has stopped. -/
theorem receive?_of_listening {x : Live} (hreceiver : x.watcher.channel.receiver = .listening)
    (hover : x.isOver = false) :
    (∃ w e, x.watcher.receive = (w, .item e) ∧ w.channel.receiver = .listening ∧
      x.receive? = some { x with watcher := w, lines := x.lines ++ [e.report] }) ∨
    (x.watcher.receive = (x.watcher, .empty) ∧ x.watcher.phase ≠ .stopped ∧ x.receive? = none) ∨
    (x.watcher.receive = (x.watcher, .disconnected) ∧ x.watcher.phase = .stopped ∧
      x.watcher.channel.buffered = [] ∧ x.receive? = some { x with isOver := true }) := by
  have hlooks : ¬ x.isOver = true := Bool.eq_false_iff.1 hover
  obtain ⟨e, rest, -, hitem⟩ | ⟨-, hphase, hempty⟩ | ⟨hbuffered, hphase, hdisconnected⟩ :=
    Watcher.receive_of_listening hreceiver
  · refine Or.inl ⟨_, e, hitem, hreceiver, ?_⟩
    rw [receive?, if_neg hlooks, hitem]
  · refine Or.inr (Or.inl ⟨hempty, hphase, ?_⟩)
    rw [receive?, if_neg hlooks, hempty]
  · refine Or.inr (Or.inr ⟨hdisconnected, hphase, hbuffered, ?_⟩)
    rw [receive?, if_neg hlooks, hdisconnected]

/-- A loop that listens and goes on has reported a change, or it ends. -/
theorem receive?_cases {x y : Live} (hreceiver : x.watcher.channel.receiver = .listening)
    (h : x.receive? = some y) :
    x.isOver = false ∧
    ((∃ w e, x.watcher.receive = (w, .item e) ∧ w.channel.receiver = .listening ∧
        y = { x with watcher := w, lines := x.lines ++ [e.report] }) ∨
      (x.watcher.receive = (x.watcher, .disconnected) ∧ x.watcher.phase = .stopped ∧
        x.watcher.channel.buffered = [] ∧ y = { x with isOver := true })) := by
  have hover : x.isOver = false := by
    refine Bool.eq_false_iff.2 fun hover => ?_
    rw [receive?, if_pos hover] at h
    cases h
  refine ⟨hover, ?_⟩
  obtain ⟨w, e, hfound, hlistens, hitem⟩ | ⟨-, -, hwaits⟩ | ⟨hfound, hphase, hbuffered, hends⟩ :=
    receive?_of_listening hreceiver hover
  · exact Or.inl ⟨w, e, hfound, hlistens, Option.some.inj (h.symm.trans hitem)⟩
  · rw [hwaits] at h
    cases h
  · exact Or.inr ⟨hfound, hphase, hbuffered, Option.some.inj (h.symm.trans hends)⟩

/-- The loop listens, and it ends only after the watcher has stopped and everything is received. -/
structure Sound (x : Live) : Prop where
  listening : x.watcher.channel.receiver = .listening
  isOver : x.isOver = true → x.watcher.phase = .stopped ∧ x.watcher.channel.buffered = []

/-- Every move keeps a session sound.  The watcher cannot go on once it has stopped, so what the loop knew when it
ended stays true. -/
theorem sound_step {x y : Live} {m : Move} (hx : x.Sound) (h : x.step? m = some y) : y.Sound := by
  obtain ⟨hlistening, hover⟩ := hx
  cases m with
  | advance =>
    obtain ⟨w, hw, rfl⟩ := Option.map_eq_some_iff.1 h
    have hreceiver : w.channel.receiver = x.watcher.channel.receiver :=
      congrArg (·.2.1) (Watcher.frame_of_advance hw)
    refine ⟨hreceiver.trans hlistening, fun h => ?_⟩
    -- a watcher that has stopped makes no step
    rw [Watcher.advance?, (hover h).1] at hw
    cases hw
  | supply r =>
    obtain ⟨_, hy⟩ := Option.ite_none_left_eq_some.1 h
    cases hy
    exact ⟨hlistening, hover⟩
  | finish =>
    cases h
    exact ⟨hlistening, hover⟩
  | receive =>
    obtain ⟨hbefore, ⟨w, e, -, hlistens, rfl⟩ | ⟨-, hphase, hbuffered, rfl⟩⟩ := receive?_cases hlistening h
    · exact ⟨hlistens, fun hafter => absurd hafter (Bool.eq_false_iff.1 hbefore)⟩
    · exact ⟨hlistening, fun _ => ⟨hphase, hbuffered⟩⟩
  | close | drop => cases h

/-- Every schedule keeps a session sound. -/
theorem sound_of_run {x y : Live} {moves : List Move} (hx : x.Sound) (h : x.run? moves = some y) :
    y.Sound := by
  induction moves generalizing x with
  | nil =>
    cases h
    exact hx
  | cons m moves ih =>
    obtain ⟨x', hx', hrun⟩ := Option.bind_eq_some_iff.1 h
    exact ih (sound_step hx hx') hrun

theorem sound_start (s : EngineSettings) : (start s).Sound := ⟨rfl, nofun⟩

/-! ## A schedule of the two tasks is one of the watcher and its receiver -/

/-- The lines of a session report what a receiver has received. -/
structure Matches (before : List Log.Line) (x : Live) (z : Exchange) : Prop where
  watcher : z.watcher = x.watcher
  lines : x.lines = before ++ z.received.map ChangeEvent.report

/-- Every move of a session is a move of the exchange that it matches.  A receipt adds a change to what was received
and a line to the report; the end of the loop adds nothing to either. -/
theorem matches_step {before : List Log.Line} {x y : Live} {z : Exchange} {m : Move} (hsound : x.Sound)
    (hx : x.Matches before z) (h : x.step? m = some y) :
    ∃ z', z.step? m = some z' ∧ y.Matches before z' := by
  -- the exchange has the watcher of the session, so each move does the same to both
  obtain ⟨w, received⟩ := z
  obtain ⟨hwatcher, hlines⟩ := hx
  cases hwatcher
  cases m with
  | advance =>
    obtain ⟨w, hw, rfl⟩ := Option.map_eq_some_iff.1 h
    exact ⟨⟨w, received⟩, Option.map_eq_some_iff.2 ⟨w, hw, rfl⟩, rfl, hlines⟩
  | supply r =>
    obtain ⟨hended, hy⟩ := Option.ite_none_left_eq_some.1 h
    cases hy
    exact ⟨_, Option.ite_none_left_eq_some.2 ⟨hended, rfl⟩, rfl, hlines⟩
  | finish =>
    cases h
    exact ⟨_, rfl, rfl, hlines⟩
  | receive =>
    refine ⟨_, rfl, ?_⟩
    obtain ⟨-, ⟨w, e, hfound, -, rfl⟩ | ⟨hfound, -, -, rfl⟩⟩ := receive?_cases hsound.listening h
    · rw [Exchange.receive, hfound]
      refine ⟨rfl, ?_⟩
      rw [hlines, List.map_append, List.append_assoc]
      rfl
    · rw [Exchange.receive, hfound]
      exact ⟨rfl, hlines⟩
  | close | drop => cases h

/-- Every schedule of a session is one of the exchange that it matches. -/
theorem matches_of_run {before : List Log.Line} {x y : Live} {z : Exchange} {moves : List Move}
    (hsound : x.Sound) (hx : x.Matches before z) (h : x.run? moves = some y) :
    ∃ z', z.run? moves = some z' ∧ y.Matches before z' := by
  induction moves generalizing x z with
  | nil =>
    cases h
    exact ⟨z, rfl, hx⟩
  | cons m moves ih =>
    obtain ⟨x', hx', hrun⟩ := Option.bind_eq_some_iff.1 h
    obtain ⟨z', hz', hmatches⟩ := matches_step hsound hx hx'
    obtain ⟨z'', hz'', hlast⟩ := ih (sound_step hsound hx') hmatches hrun
    exact ⟨z'', Option.bind_eq_some_iff.2 ⟨z', hz', hz''⟩, hlast⟩

/-- A session from its start matches an exchange from its start. -/
theorem exists_matches_of_run {s : EngineSettings} {moves : List Move} {x : Live}
    (h : (start s).run? moves = some x) :
    ∃ z, (Exchange.start s.eventBuffer).run? moves = some z ∧ x.Matches (opening s) z :=
  matches_of_run (sound_start s) ⟨rfl, (List.append_nil _).symm⟩ h

theorem capacity_of_run {s : EngineSettings} {moves : List Move} {x : Live}
    (h : (start s).run? moves = some x) : x.watcher.channel.capacity = s.eventBuffer := by
  obtain ⟨z, hz, hmatches⟩ := exists_matches_of_run h
  rw [← hmatches.watcher]
  exact Exchange.capacity_of_run hz

/-- Moves of the two tasks leave the room of the channel, the receiver and the end of the stream as they are. -/
theorem frame_of_inner {x y : Live} {moves : List Move} (hx : x.Sound) (hinner : ∀ m ∈ moves, m.IsInner)
    (h : x.run? moves = some y) : y.watcher.frame = x.watcher.frame := by
  have hsame : x.Matches x.lines ⟨x.watcher, []⟩ := ⟨rfl, (List.append_nil _).symm⟩
  obtain ⟨z, hz, hmatches⟩ := matches_of_run hx hsame h
  rw [← hmatches.watcher]
  exact Exchange.frame_of_inner hinner hz

/-! ## The two tasks come to the end -/

/-- Once the stream has ended, one of the two tasks can go on until the loop has ended.  A loop that waits is waiting
for the watcher, and a watcher that waits is waiting for the loop or for the stream. -/
theorem exists_step_of_ended {x : Live} (hx : x.Sound) (hcapacity : 1 ≤ x.watcher.channel.capacity)
    (hended : x.watcher.ended = true) (hover : x.isOver = false) :
    ∃ m y, m.IsInner ∧ x.step? m = some y := by
  obtain ⟨w, e, -, -, hitem⟩ | ⟨hempty, hphase, -⟩ | ⟨-, -, -, hends⟩ :=
    receive?_of_listening hx.listening hover
  · exact ⟨.receive, _, Or.inr rfl, hitem⟩
  · obtain ⟨v, hv, -⟩ | ⟨e, hitem⟩ | ⟨hidle, -⟩ :=
      Watcher.getsOn_or_receives_or_idle hcapacity hx.listening hphase
    · exact ⟨.advance, _, Or.inl rfl, Option.map_eq_some_iff.2 ⟨v, hv, rfl⟩⟩
    · rw [hempty] at hitem
      cases hitem
    · exact absurd hended (Bool.eq_false_iff.1 hidle.ended)
  · exact ⟨.receive, _, Or.inr rfl, hends⟩

/-- The work that is left for the two tasks; the end of the loop is one more step. -/
def left (x : Live) : Nat := x.watcher.work + if x.isOver then 0 else 1

/-- The end of the loop is one step beyond the work of the watcher. -/
theorem left_le (x : Live) : x.left ≤ x.watcher.work + 1 := by
  rw [left]
  split
  · exact Nat.le_succ _
  · exact Nat.le_refl _

/-- Every step of the two tasks takes off some of the work that is left. -/
theorem left_step_lt {x y : Live} {m : Move} (hx : x.Sound) (hm : m.IsInner) (h : x.step? m = some y) :
    y.left < x.left := by
  obtain rfl | rfl := hm
  · obtain ⟨w, hw, rfl⟩ := Option.map_eq_some_iff.1 h
    exact Nat.add_lt_add_right (Watcher.work_advance_lt hw) _
  · obtain ⟨hbefore, ⟨w, e, hfound, -, rfl⟩ | ⟨-, -, -, rfl⟩⟩ := receive?_cases hx.listening h
    · exact Nat.add_lt_add_right (Watcher.work_receive_lt hfound) _
    · rw [left, left, hbefore]
      exact Nat.lt_succ_self _

/-- The two tasks alone make no more steps than there is work left. -/
theorem length_add_left_le {x y : Live} {moves : List Move} (hx : x.Sound) (hinner : ∀ m ∈ moves, m.IsInner)
    (h : x.run? moves = some y) : moves.length + y.left ≤ x.left := by
  induction moves generalizing x with
  | nil =>
    cases h
    exact Nat.le_of_eq (Nat.zero_add _)
  | cons m moves ih =>
    obtain ⟨x', hx', hrun⟩ := Option.bind_eq_some_iff.1 h
    obtain ⟨hm, hmoves⟩ := List.forall_mem_cons.1 hinner
    have hlt := left_step_lt hx hm hx'
    have hle := ih (sound_step hx hx') hmoves hrun
    rw [List.length_cons]
    omega

/-! ## What is reported -/

/-- At any point the session has reported changes at the beginning of the stream, as information. -/
theorem lines_of_run {s : EngineSettings} {moves : List Move} {x : Live} (h : (start s).run? moves = some x) :
    ∃ es, es <+: changes (Exchange.supplied moves) ∧
      x.lines = opening s ++ es.map ChangeEvent.information := by
  obtain ⟨z, hz, hmatches⟩ := exists_matches_of_run h
  have hprefix := Exchange.received_prefix_of_run hz
  refine ⟨z.received, hprefix, ?_⟩
  rw [hmatches.lines, map_report_eq_of_prefix hprefix]

/-- A loop that has ended has reported all changes of a stream that has ended. -/
theorem lines_of_isOver {s : EngineSettings} {moves : List Move} {x : Live}
    (h : (start s).run? moves = some x) (hover : x.isOver = true) :
    x.watcher.phase = .stopped ∧ x.watcher.ended = true ∧
      x.lines = opening s ++ (changes (Exchange.supplied moves)).map ChangeEvent.information := by
  obtain ⟨hlistening, hends⟩ := sound_of_run (sound_start s) h
  obtain ⟨hphase, hbuffered⟩ := hends hover
  obtain ⟨z, hz, hwatcher, hlines⟩ := exists_matches_of_run h
  rw [← hwatcher] at hlistening hphase hbuffered ⊢
  obtain ⟨hended, hreceived⟩ := Exchange.received_of_stopped hz hlistening hphase hbuffered
  refine ⟨hphase, hended, ?_⟩
  rw [hlines, hreceived, map_report_eq_of_prefix (List.prefix_refl _)]

/-- Once the stream has ended, the two tasks alone come to the end of the loop, whatever steps they make:
they make no more of them than there is work, and when they can make none the loop has ended. -/
theorem ends_of_run {s : EngineSettings} {moves more : List Move} {x y : Live} (hroom : 1 ≤ s.eventBuffer)
    (h : (start s).run? moves = some x) (hended : x.watcher.ended = true)
    (hinner : ∀ m ∈ more, m.IsInner) (hmore : x.run? more = some y) :
    more.length ≤ x.watcher.work + 1 ∧
    (y.isOver = true ∧
        y.lines = opening s ++ (changes (Exchange.supplied moves)).map ChangeEvent.information ∨
      ∃ m z, m.IsInner ∧ y.step? m = some z) := by
  have hx := sound_of_run (sound_start s) h
  have hlength := length_add_left_le hx hinner hmore
  have hleft := x.left_le
  refine ⟨by omega, ?_⟩
  cases hover : y.isOver with
  | true =>
    refine Or.inl ⟨rfl, ?_⟩
    have hwhole : (start s).run? (moves ++ more) = some y := by
      rw [run_append, h]
      exact hmore
    rw [← Exchange.supplied_append_of_inner moves hinner]
    exact (lines_of_isOver hwhole hover).2.2
  | false =>
    -- the two tasks change neither the end of the stream nor the room of the channel
    have hframe := frame_of_inner hx hinner hmore
    have hcapacity : y.watcher.channel.capacity = s.eventBuffer :=
      (congrArg Prod.fst hframe).trans (capacity_of_run h)
    have hends : y.watcher.ended = x.watcher.ended := congrArg (·.2.2) hframe
    refine Or.inr ?_
    exact exists_step_of_ended (sound_of_run hx hmore) (hcapacity.symm ▸ hroom) (hends.trans hended) hover

end Live

/-! ## The session as it runs -/

/-- A session with a channel watches to the end and reports the changes of the readings.  The session runs one
schedule of its two tasks to the end, and all of its readings are there from the start. -/
theorem watch_of_room (filter : Log.Filter) (lines : List Log.Line) {capacity : Nat} (readings : List Reading)
    (request : Option String) (h1 : 1 ≤ capacity) (hmax : capacity ≤ Channel.maxCapacity) :
    (watch filter lines capacity readings request).outcome = .finished ∧
    (watch filter lines capacity readings request).lines =
      lines ++ watching :: (changes readings).map ChangeEvent.information := by
  -- the whole stream is there before the watcher begins
  have hrun := Exchange.run_stream { capacity } [] readings
  have hreceived := Exchange.received_append_drain h1 hrun rfl rfl
  rw [Exchange.supplied_stream, List.nil_append, List.nil_append] at hreceived
  rw [← map_report_eq_of_prefix (List.prefix_refl _), ← hreceived, watch, Watcher.new?_eq_some h1 hmax]
  exact ⟨rfl, rfl⟩

/-- What a session reports, for every stream and in every schedule of its two tasks.  The schedule is arbitrary and
may stop anywhere; the session as it runs makes one of them, on the readings that the engine gives. -/
theorem reports_of_run {h : Host} {c : Config} {filter : Log.Filter} {moves : List Move} {x : Live}
    (hload : Config.load h.files h.settingsPath h.complaint = .ok c)
    (hsetUp : Telemetry.setUp c.telemetry false = .ok filter)
    (hpeer : h.peer (enginePath h c.docker) ≠ .missing)
    (hroom : c.docker.eventBuffer ≤ Channel.maxCapacity)
    (hrun : (Live.start c.docker).run? moves = some x) :
    -- the session gets the channel that the settings ask for
    Watcher.new? c.docker.eventBuffer = some (Live.start c.docker).watcher ∧
    -- at any point the reports are the beginning of the changes of the stream
    (∃ es, es <+: changes (Exchange.supplied moves) ∧
      x.lines = Live.opening c.docker ++ es.map ChangeEvent.information) ∧
    -- at the end of the loop the watcher has stopped at the end of the stream, and all is reported
    (x.isOver = true → x.watcher.phase = .stopped ∧ x.watcher.ended = true ∧
      x.lines = Live.opening c.docker ++ (changes (Exchange.supplied moves)).map ChangeEvent.information) ∧
    -- once the stream has ended the two tasks come there in any order
    (x.watcher.ended = true → ∀ more y, (∀ m ∈ more, m.IsInner) → x.run? more = some y →
      more.length ≤ x.watcher.work + 1 ∧
      (y.isOver = true ∧
          y.lines =
            Live.opening c.docker ++ (changes (Exchange.supplied moves)).map ChangeEvent.information ∨
        ∃ m z, m.IsInner ∧ y.step? m = some z)) ∧
    -- a session reports so what the engine gives to read
    (run h).outcome = .finished ∧
    (run h).lines = Live.opening c.docker ++
      (changes (c.docker.ask h.client (h.peer (enginePath h c.docker))).1).map ChangeEvent.information := by
  obtain ⟨h1, -⟩ := Config.eventBuffer_bounds_of_load hload
  refine ⟨Watcher.new?_eq_some h1 hroom, Live.lines_of_run hrun, Live.lines_of_isOver hrun,
    fun hended more y hinner hmore => ?_, ?_⟩
  · exact Live.ends_of_run h1 hrun hended hinner hmore
  · rw [run_of_setUp_eq_ok hload hsetUp, connect_of_ne_missing filter hpeer]
    exact watch_of_room filter _ _ _ h1 hroom

theorem isSome_run_exampleMoves :
    ((Live.start { eventBuffer := 1 }).run? (Exchange.exampleMoves ++ [.receive])).isSome := by decide +kernel

/-- Two changes that arrive through a channel with room for one are reported, with settings from a file. -/
theorem reports_exampleMoves :
    ∃ x, (Live.start { eventBuffer := 1 }).run? (Exchange.exampleMoves ++ [.receive]) = some x ∧
      x.watcher.phase = .stopped ∧ x.lines.map Log.Line.level = [.info, .info, .info, .info] ∧
      x.lines = Live.opening { eventBuffer := 1 } ++
        (changes (Exchange.supplied (Exchange.exampleMoves ++ [.receive]))).map ChangeEvent.information ∧
      (run (exampleHost "docker:\n  event_buffer: 1\n")).outcome = .finished := by
  have hrun := (Option.some_get isSome_run_exampleMoves).symm
  have hload : Config.load (exampleHost "docker:\n  event_buffer: 1\n").files none =
      .ok { docker := { eventBuffer := 1 } } := eq_ok_of_toOption (by decide +kernel)
  have hfilter : (Telemetry.setUp {} false).toOption.isSome := by decide +kernel
  have hsetUp := eq_ok_of_toOption (Option.some_get hfilter).symm
  obtain ⟨-, -, hover, -, hfinished, -⟩ :=
    reports_of_run hload hsetUp (by decide +kernel) (by decide) hrun
  obtain ⟨hphase, -, hlines⟩ := hover (by decide +kernel)
  exact ⟨_, hrun, hphase, by decide +kernel, hlines, hfinished⟩

end Session

end ContainerWatch
