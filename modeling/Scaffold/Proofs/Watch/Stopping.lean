import Scaffold.Proofs.Watch.Driving

/-!
The end of a watch. The signal to stop is heeded wherever the loop waits, but where a quiet window
is over as well, the loop may go on with that: one more run can start. All that was started is
finished and reported, and nothing comes after the end.
-/

namespace Scaffold.Watch

namespace Loop

/-! What a loop that is stopped can still do. -/

/-- How many runs a stopped loop can still start. -/
def startable (l : Loop) : Nat :=
  match l.phase with
  | .idle | .debouncing | .draining => 1
  | .running | .settled | .ended => 0

/-- How many runs a stopped loop can still finish. -/
def finishable (l : Loop) : Nat :=
  match l.phase with
  | .idle | .debouncing | .draining | .running => 1
  | .settled | .ended => 0

section Moves

variable {l next : Loop} {a : Action}

theorem Moves.stopped (moves : Moves l a next) (stopped : l.stopped = true) :
    next.stopped = true := by
  cases moves with
  | stop => rfl
  | send | wake | prolong | drain | elapse | finish | settle | again | rest | quit => exact stopped

theorem Moves.startable (moves : Moves l a next) (stopped : l.stopped = true) :
    [a].count .elapse + next.startable ≤ l.startable := by
  cases moves with
  | settle _ going => simp [stopped] at going
  | send | stop => simp [Loop.startable]
  | quit => simp [Loop.startable]
  | wake phase | prolong phase | drain phase | elapse phase | finish phase | again phase
    | rest phase => simp [Loop.startable, phase]

theorem Moves.finishable (moves : Moves l a next) (stopped : l.stopped = true) :
    [a].count .finish + next.finishable ≤ l.finishable := by
  cases moves with
  | settle _ going => simp [stopped] at going
  | send | stop => simp [Loop.finishable]
  | quit => simp [Loop.finishable]
  | wake phase | prolong phase | drain phase | elapse phase | finish phase | again phase
    | rest phase => simp [Loop.finishable, phase]

theorem Moves.ended (moves : Moves l a next) (ended : l.phase = .ended) : next.phase = .ended := by
  cases moves with
  | quit => rfl
  | send | stop => exact ended
  | wake phase | prolong phase | drain phase | elapse phase | finish phase | settle phase
    | again phase | rest phase => simp [ended] at phase

end Moves

section Row

variable {l last : Loop} {as : List Action}

theorem count_elapse_le_startable (stopped : l.stopped = true) (reached : l.run? as = some last) :
    as.count .elapse ≤ l.startable := by
  have drawn := run?_count_le (b := .elapse)
    (fun _ _ _ _ moves stopped => ⟨moves.stopped stopped, moves.startable stopped⟩) reached stopped
  exact Nat.le_of_add_right_le drawn

theorem count_finish_le_finishable (stopped : l.stopped = true)
    (reached : l.run? as = some last) : as.count .finish ≤ l.finishable := by
  have drawn := run?_count_le (b := .finish)
    (fun _ _ _ _ moves stopped => ⟨moves.stopped stopped, moves.finishable stopped⟩) reached stopped
  exact Nat.le_of_add_right_le drawn

end Row

/-- Wherever no run is under way and none has just finished, a stopped loop can start one, if need
be after one more change. -/
theorem exists_elapse_of_startable {l : Loop} (balanced : l.Balanced) (free : l.startable ≠ 0) :
    ∃ rest last, l.run? (.stop :: rest) = some last ∧ .elapse ∈ rest := by
  have waits : l.taken < l.sent + 1 := Nat.lt_succ_of_le balanced.taken
  obtain ⟨more, last, -, -, starts, reached⟩ :
      CanStart { l with stopped := true, sent := l.sent + 1 } := by
    cases phase : l.phase with
    | idle => exact .cons (.wake rfl waits) (by decide) (canStart_of_debouncing rfl)
    | debouncing => exact canStart_of_debouncing rfl
    | draining => exact canStart_of_draining rfl (.inr waits)
    | running | settled | ended => simp [startable, phase] at free
  refine ⟨.send :: more, last, ?_, List.mem_cons_of_mem _ starts⟩
  exact run?_cons_eq_some_iff.2 ⟨_, .stop, run?_cons_eq_some_iff.2 ⟨_, .send, reached⟩⟩

/-- The signal prevents further runs exactly where a stopped loop can start none. -/
theorem prevents_iff {l : Loop} (balanced : l.Balanced) :
    (∀ rest last, l.run? (.stop :: rest) = some last → .elapse ∉ rest) ↔ l.startable = 0 := by
  constructor
  · intro prevented
    by_contra free
    obtain ⟨rest, last, reached, starts⟩ := exists_elapse_of_startable balanced free
    exact prevented rest last reached starts
  · intro none rest last reached
    obtain ⟨stopped, moves, row⟩ := run?_cons_eq_some_iff.1 reached
    cases moves with
    | stop =>
        have most := count_elapse_le_startable rfl row
        exact List.count_eq_zero.1 (Nat.le_zero.1 (none ▸ most))

theorem ended_of_run? {l last : Loop} {as : List Action} (ended : l.phase = .ended)
    (reached : l.run? as = some last) :
    last.phase = .ended ∧ .elapse ∉ as ∧ .finish ∉ as := by
  induction as generalizing l with
  | nil =>
      cases reached
      exact ⟨ended, List.not_mem_nil, List.not_mem_nil⟩
  | cons a as ih =>
      obtain ⟨next, moves, rest⟩ := run?_cons_eq_some_iff.1 reached
      obtain ⟨stays, waits, unfinished⟩ := ih (moves.ended ended) rest
      refine ⟨stays, List.not_mem_cons_of_ne_of_not_mem ?_ waits,
        List.not_mem_cons_of_ne_of_not_mem ?_ unfinished⟩
      · rintro rfl
        cases moves with
        | elapse phase => simp [ended] at phase
      · rintro rfl
        cases moves with
        | finish phase => simp [ended] at phase

/-- How many actions a stopped loop takes to its end if it heeds the signal wherever it waits. -/
def untilEnd (l : Loop) : Nat :=
  match l.phase with
  | .idle | .debouncing | .settled => 1
  | .running => 2
  | .draining => l.sent - l.taken + 2
  | .ended => 0

theorem inner_of_next? {l : Loop} {a : Action} (goesOn : l.next? = some a) :
    a ≠ .send ∧ a ≠ .stop := by
  unfold next? at goesOn
  split at goesOn
  · split_ifs at goesOn <;> cases goesOn <;> decide
  · split_ifs at goesOn <;> cases goesOn <;> decide
  · cases goesOn
    decide
  · split_ifs at goesOn <;> cases goesOn <;> decide
  · split_ifs at goesOn <;> cases goesOn <;> decide
  · cases goesOn

/-- A stopped loop that heeds the signal comes closer to its end and starts nothing. -/
theorem Moves.untilEnd {l next : Loop} {a : Action} (moves : Moves l a next)
    (goesOn : l.next? = some a) (stopped : l.stopped = true) :
    a ≠ .elapse ∧ next.untilEnd < l.untilEnd := by
  obtain ⟨unsent, unsignalled⟩ := inner_of_next? goesOn
  cases moves with
  | send => exact absurd rfl unsent
  | stop => exact absurd rfl unsignalled
  | wake phase | prolong phase | elapse phase => simp [next?, phase, stopped] at goesOn
  | settle _ going => simp [stopped] at going
  | drain phase waits =>
      refine ⟨by decide, ?_⟩
      simp only [Loop.untilEnd, phase]
      omega
  | finish phase | again phase | rest phase => simp [Loop.untilEnd, phase]
  | quit _ phase => rcases phase with phase | phase | phase <;> simp [Loop.untilEnd, phase]

theorem ended_of_untilEnd {l : Loop} (none : l.untilEnd = 0) : l.phase = .ended := by
  unfold untilEnd at none
  split at none <;> simp_all

theorem ended_of_next? {l : Loop} (waits : l.next? = none) (stopped : l.stopped = true) :
    l.phase = .ended := by
  unfold next? at waits
  split at waits <;> simp_all

theorem Moves.started {l next : Loop} {a : Action} (moves : Moves l a next) (waits : a ≠ .elapse) :
    next.started = l.started := by
  cases moves with
  | elapse => exact absurd rfl waits
  | send | stop | wake | prolong | drain | finish | settle | again | rest | quit => rfl

theorem untilEnd_le_patience (l : Loop) : l.untilEnd ≤ l.patience := by
  unfold untilEnd patience
  split <;> omega

end Loop

namespace Session

/-- The event of the run that is under way, as it finishes on the files of now. -/
def due? (s : Session) : Option Event :=
  if s.loop.phase = .running then
    s.inFlight.map fun generated => (publish s.options s.tree generated).2
  else none

theorem due?_of_ne {s : Session} (idle : s.loop.phase ≠ .running) : s.due? = none :=
  if_neg idle

theorem report?_finish_eq_due? (s : Session) : s.report? (.action .finish) = s.due? := by
  by_cases running : s.loop.phase = .running
  · simp only [report?, due?, Loop.step?, running, if_true]
    cases s.inFlight <;> rfl
  · simp [report?, due?, Loop.step?, running]

theorem due?_stop (s : Session) : (s.perform .stop).due? = s.due? := rfl

/-- What is due when a loop goes on is published with that or still due. -/
theorem due?_perform {s : Session} {a : Action} {next : Loop} (moves : s.loop.Moves a next)
    (inner : a ≠ .send ∧ a ≠ .stop) (waits : a ≠ .elapse) :
    (s.report? (.action a)).toList ++ (s.perform a).due?.toList = s.due?.toList := by
  have reached := loop_perform (Loop.step?_of_moves moves)
  have silent (phase : s.loop.phase ≠ .running) (later : next.phase ≠ .running) :
      (s.perform a).due?.toList = s.due?.toList := by
    rw [due?_of_ne phase, due?_of_ne (reached ▸ later)]
  cases moves with
  | send => exact absurd rfl inner.1
  | stop => exact absurd rfl inner.2
  | elapse => exact absurd rfl waits
  | finish =>
      rw [report?_finish_eq_due?, due?_of_ne (s := s.perform .finish) (by simp [reached])]
      exact List.append_nil _
  | wake phase | prolong phase | drain phase | settle phase | again phase | rest phase =>
      exact silent (by simp [phase]) (by simp [phase])
  | quit _ phase =>
      refine silent ?_ (by simp)
      rcases phase with phase | phase | phase <;> simp [phase]

/-- What becomes of a session in which a stopped loop heeds the signal. -/
structure Heeds (s t : Session) : Prop where
  ended : t.loop.phase = .ended
  started : t.loop.started = s.loop.started
  events : t.events = s.events ++ s.due?.toList

theorem Heeds.of_ended {s : Session} (ended : s.loop.phase = .ended) : s.Heeds s where
  ended := ended
  started := rfl
  events := by
    rw [due?_of_ne (by simp [ended])]
    exact (List.append_nil _).symm

theorem heeds_goOn {fuel : Nat} {s : Session} (stopped : s.loop.stopped = true)
    (enough : s.loop.untilEnd ≤ fuel) : s.Heeds (s.goOn (·.loop.phase == .ended) fuel) := by
  induction fuel generalizing s with
  | zero => exact .of_ended (Loop.ended_of_untilEnd (Nat.le_zero.1 enough))
  | succ fuel ih =>
      rw [goOn]
      split
      · next done => exact .of_ended (beq_iff_eq.1 done)
      · split
        · next waits => exact .of_ended (Loop.ended_of_next? waits stopped)
        · next a goesOn =>
          obtain ⟨next, moves⟩ := Loop.moves_of_next? goesOn
          obtain ⟨starts, closer⟩ := moves.untilEnd goesOn stopped
          have reached := loop_perform (Loop.step?_of_moves moves)
          obtain ⟨ended, started, events⟩ : (s.perform a).Heeds _ :=
            ih (reached ▸ moves.stopped stopped) (by rw [reached]; omega)
          refine ⟨ended, ?_, ?_⟩
          · rw [started, reached, moves.started starts]
          · rw [events, events_perform, List.append_assoc,
              due?_perform moves (Loop.inner_of_next? goesOn) starts]

/-- Where the signal goes first no run starts, the one under way publishes its event, and the loop
ends. -/
theorem heeds_stop (s : Session) : s.Heeds s.stop := by
  have enough : (s.perform .stop).loop.untilEnd ≤ 2 * (s.perform .stop).loop.patience + 4 := by
    have := (s.perform .stop).loop.untilEnd_le_patience
    omega
  obtain ⟨ended, started, events⟩ := heeds_goOn (s := s.perform .stop) rfl enough
  rw [due?_stop] at events
  exact ⟨ended, started, events⟩

theorem Ready.after {s : Session} {hs : List Happening} {l : Loop} (ready : s.Ready)
    (possible : s.loop.run? (actions hs) = some l) : (s.after hs).Ready := by
  induction hs generalizing s with
  | nil => exact ready
  | cons h hs ih => exact ih (ready.happen possible) (run?_happen possible)

theorem reports_of_unfinished {s : Session} {hs : List Happening} {l : Loop} (ready : s.Ready)
    (possible : s.loop.run? (actions hs) = some l) (unfinished : .finish ∉ actions hs) :
    s.reports hs = [] := by
  rw [List.eq_nil_iff_length_eq_zero, length_reports ready possible]
  exact List.count_eq_zero.2 unfinished

/-- What the signal to stop leaves to come, as it is given after `before`. -/
structure Stops (s : Session) (before after : List Happening) : Prop where
  /-- At most one run starts. -/
  starts : (actions after).count .elapse ≤ (s.after before).loop.startable
  /-- No run starts, whatever comes, exactly where one is under way or has just published its event,
  or the loop has ended. -/
  prevents : (∀ rest l, (s.after before).loop.run? (.stop :: rest) = some l → .elapse ∉ rest) ↔
    (s.after before).loop.startable = 0
  /-- At most one event is published, and none if the latest run has just published its own. -/
  reports : ((s.after (before ++ [.action .stop])).reports after).length ≤
    (s.after before).loop.finishable
  /-- Of all runs that were started each has finished by the end. -/
  finished : (s.after (before ++ .action .stop :: after)).loop.phase = .ended →
    (actions (before ++ .action .stop :: after)).count .elapse =
      (actions (before ++ .action .stop :: after)).count .finish
  /-- After the end no run is under way, none starts, and no event is published. -/
  afterEnd : ∀ later l, (s.after (before ++ .action .stop :: after)).loop.phase = .ended →
    (s.after (before ++ .action .stop :: after)).loop.run? (actions later) = some l →
    l.phase = .ended ∧ .elapse ∉ actions later ∧
      (s.after (before ++ .action .stop :: after)).reports later = []
  /-- A loop that prefers the signal starts nothing more. -/
  heeds : (s.after before).Heeds (s.after before).stop

/-- After the signal to stop at most one more run starts, and at most one more event is published.
What was started is finished by the end, after which nothing follows; and if the loop prefers the
signal wherever it waits, nothing more is started at all. -/
theorem stops_of_start {lineup : Lineup} {options : Options} {now : Instant} {tree : FileTree}
    {s : Session} (started : start lineup options now tree = .ok s) {before after : List Happening}
    {l : Loop} (possible : s.loop.run? (actions (before ++ .action .stop :: after)) = some l) :
    s.Stops before after := by
  obtain ⟨fresh, -⟩ := fresh_of_start started
  have last := loop_after possible
  have ready := fresh.ready.after possible
  have split : before ++ .action .stop :: after = before ++ [.action .stop] ++ after := by simp
  obtain ⟨stopped, row, rest⟩ : ∃ stopped, s.loop.run? (actions (before ++ [.action .stop])) =
      some stopped ∧ stopped.run? (actions after) = some l := by
    rw [split, actions_append] at possible
    exact Loop.run?_append_eq_some_iff.1 possible
  have here := loop_after row
  obtain ⟨waiting, first, signal⟩ : ∃ waiting, s.loop.run? (actions before) = some waiting ∧
      waiting.run? [.stop] = some stopped := by
    rw [actions_append] at row
    exact Loop.run?_append_eq_some_iff.1 row
  have signalled : stopped.stopped = true ∧ stopped.phase = (s.after before).loop.phase := by
    obtain ⟨_, moves, same⟩ := Loop.run?_cons_eq_some_iff.1 signal
    cases same
    cases moves with
    | stop => exact ⟨rfl, (congrArg Loop.phase (loop_after first)).symm⟩
  refine ⟨?_, ?_, ?_, ?_, ?_, heeds_stop _⟩
  · have most := Loop.count_elapse_le_startable signalled.1 rest
    rwa [Loop.startable, signalled.2] at most
  · rw [fresh.loop] at first
    rw [loop_after (fresh.loop ▸ first)]
    exact Loop.prevents_iff (Loop.balanced_of_run? first)
  · have most := Loop.count_finish_le_finishable signalled.1 rest
    rw [Loop.finishable, signalled.2] at most
    rwa [length_reports (fresh.ready.after row) (here ▸ rest)]
  · intro ended
    rw [last] at ended
    rw [fresh.loop] at possible
    simpa [ended] using (Loop.faithful_of_run? possible).apart
  · intro later m ended reached
    obtain ⟨stays, waits, unfinished⟩ := Loop.ended_of_run? ended reached
    exact ⟨stays, waits, reports_of_unfinished ready reached unfinished⟩

/-- The signal comes when the quiet window of the initial run is over. That run starts all the
same. -/
theorem stops_of_start_late :
    let options : Options := { schemaPath := "schema.toml", generation := {}, watchFiles := false }
    let s : Session :=
      { lineup := {}, options, now := ⟨0, 0⟩, loop := .start true, tree := .empty }
    let after : List Happening := ([.elapse, .finish, .quit] : List Action).map .action
    s.Stops [.action .take] after ∧ (actions after).count .elapse = 1 ∧
      (s.after ([.action .take] ++ .action .stop :: after)).loop.phase = .ended := by
  intro options s after
  have started : start {} options ⟨0, 0⟩ .empty = .ok s := rfl
  have possible : s.loop.run? (actions ([.action .take] ++ .action .stop :: after)) = some
      { phase := .ended, stopped := true, sent := 1, taken := 1, started := 1, finished := 1,
        covered := 1 } := rfl
  exact ⟨stops_of_start started possible, rfl, rfl⟩

/-- Not every row is free of runs that start after the signal. -/
theorem elapse_after_stop :
    ¬∀ (initialRun : Bool) (before after : List Action) (l : Loop),
      (Loop.start initialRun).run? (before ++ .stop :: after) = some l → .elapse ∉ after := by
  intro free
  exact free true [.take] [.elapse] _ rfl List.mem_cons_self

end Session

end Scaffold.Watch
