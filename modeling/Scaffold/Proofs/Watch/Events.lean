import Scaffold.Proofs.Watch.Wakeups
import Scaffold.Watch.Session

/-!
A watch in operation: its loop loses no change, and each run that finishes publishes one event, the
events in the order of the runs.
-/

namespace Scaffold.Watch

/-- What can happen to a session: an action of its loop, a change of files by somebody else, and
that an event is received. -/
inductive Happening where
  | action (a : Action)
  | edit (tree : FileTree)
  | receive

def Happening.action? : Happening → Option Action
  | .action a => some a
  | _ => none

def actions (hs : List Happening) : List Action :=
  hs.filterMap Happening.action?

@[simp] theorem actions_append (hs more : List Happening) :
    actions (hs ++ more) = actions hs ++ actions more :=
  List.filterMap_append

theorem mem_actions {a : Action} {hs : List Happening} : a ∈ actions hs ↔ .action a ∈ hs := by
  rw [actions, List.mem_filterMap]
  constructor
  · rintro ⟨h, member, same⟩
    cases h with
    | action b => exact Option.some.inj same ▸ member
    | edit | receive => cases same
  · intro member
    exact ⟨.action a, member, rfl⟩

namespace Session

def happen (s : Session) : Happening → Session
  | .action a => s.perform a
  | .edit tree => { s with tree }
  | .receive => { s with events := s.events.tail }

def after (s : Session) (hs : List Happening) : Session :=
  hs.foldl happen s

def received (s : Session) : List Happening → List Event
  | [] => []
  | .receive :: hs => s.events.head?.toList ++ (s.happen .receive).received hs
  | h :: hs => (s.happen h).received hs

/-- All events published by the end of a row: those received on the way, and those left. -/
def published (s : Session) (hs : List Happening) : List Event :=
  s.received hs ++ (s.after hs).events

/-- The event of a run that reads `start` and finishes on `tree`. -/
def eventOf (s : Session) (start tree : FileTree) : Event :=
  (publish s.options tree (generate s.lineup s.options s.now start).2).2

/-- The event that is published when something happens. -/
def report? (s : Session) : Happening → Option Event
  | .action .finish => do
      let _ ← s.loop.step? .finish
      let generated ← s.inFlight
      return (publish s.options s.tree generated).2
  | _ => none

/-- The events published along a row of happenings. -/
def reports (s : Session) : List Happening → List Event
  | [] => []
  | h :: hs => (s.report? h).toList ++ (s.happen h).reports hs

/-! What a happening does. -/

section Perform

variable {s : Session} {a : Action} {next : Loop}

theorem loop_perform (stepped : s.loop.step? a = some next) : (s.perform a).loop = next := by
  unfold perform
  rw [stepped]
  cases a with
  | finish => cases s.inFlight <;> rfl
  | elapse | send | stop | take | settle | rest | quit => rfl

theorem inFlight_perform_elapse (stepped : s.loop.step? .elapse = some next) :
    (s.perform .elapse).inFlight = some (generate s.lineup s.options s.now s.tree).2 := by
  unfold perform
  rw [stepped]

theorem inFlight_perform_of_ne (waits : a ≠ .elapse) (unfinished : a ≠ .finish) :
    (s.perform a).inFlight = s.inFlight := by
  unfold perform
  cases s.loop.step? a with
  | none => rfl
  | some next =>
      cases a with
      | elapse => exact absurd rfl waits
      | finish => exact absurd rfl unfinished
      | send | stop | take | settle | rest | quit => rfl

theorem report?_finish {generated : Except Fault Bundle}
    (stepped : s.loop.step? .finish = some next) (running : s.inFlight = some generated) :
    s.report? (.action .finish) = some (publish s.options s.tree generated).2 := by
  simp [report?, stepped, running]

theorem events_perform (s : Session) (a : Action) :
    (s.perform a).events = s.events ++ (s.report? (.action a)).toList := by
  unfold perform
  cases a with
  | finish =>
      cases stepped : s.loop.step? .finish with
      | none => simp [report?, stepped]
      | some next => cases running : s.inFlight <;> simp [report?, stepped, running]
  | elapse | send | stop | take | settle | rest | quit => split <;> simp [report?]

theorem settings_perform (s : Session) (a : Action) :
    (s.perform a).lineup = s.lineup ∧ (s.perform a).options = s.options ∧
      (s.perform a).now = s.now := by
  unfold perform
  cases s.loop.step? a with
  | none => exact ⟨rfl, rfl, rfl⟩
  | some next =>
      cases a with
      | finish => cases s.inFlight <;> exact ⟨rfl, rfl, rfl⟩
      | elapse | send | stop | take | settle | rest | quit => exact ⟨rfl, rfl, rfl⟩

theorem settings_happen (s : Session) (h : Happening) :
    (s.happen h).lineup = s.lineup ∧ (s.happen h).options = s.options ∧
      (s.happen h).now = s.now := by
  cases h with
  | edit | receive => exact ⟨rfl, rfl, rfl⟩
  | action a => exact s.settings_perform a

end Perform

/-! What a row of happenings does. -/

@[simp] theorem after_append (s : Session) (hs more : List Happening) :
    s.after (hs ++ more) = (s.after hs).after more :=
  List.foldl_append

theorem settings_after (s : Session) (hs : List Happening) :
    (s.after hs).lineup = s.lineup ∧ (s.after hs).options = s.options ∧
      (s.after hs).now = s.now := by
  induction hs generalizing s with
  | nil => exact ⟨rfl, rfl, rfl⟩
  | cons h hs ih =>
      obtain ⟨lineup, options, now⟩ := s.settings_happen h
      obtain ⟨laterLineup, laterOptions, laterNow⟩ := ih (s.happen h)
      exact ⟨laterLineup.trans lineup, laterOptions.trans options, laterNow.trans now⟩

theorem reports_append (s : Session) (hs more : List Happening) :
    s.reports (hs ++ more) = s.reports hs ++ (s.after hs).reports more := by
  induction hs generalizing s with
  | nil => rfl
  | cons h hs ih =>
      calc
        s.reports (h :: hs ++ more)
            = (s.report? h).toList ++ (s.happen h).reports (hs ++ more) := rfl
        _ = (s.report? h).toList ++
              ((s.happen h).reports hs ++ ((s.happen h).after hs).reports more) :=
            congrArg _ (ih (s.happen h))
        _ = s.reports (h :: hs) ++ (s.after (h :: hs)).reports more := (List.append_assoc ..).symm

/-- What is published is received in turn, or is still there at the end. -/
theorem published_eq (s : Session) (hs : List Happening) :
    s.published hs = s.events ++ s.reports hs := by
  induction hs generalizing s with
  | nil => exact (List.append_nil s.events).symm
  | cons h hs ih =>
      cases h with
      | edit tree => exact ih { s with tree }
      | action a =>
          calc
            s.published (.action a :: hs) = (s.perform a).published hs := rfl
            _ = (s.perform a).events ++ (s.perform a).reports hs := ih (s.perform a)
            _ = s.events ++ ((s.report? (.action a)).toList ++ (s.perform a).reports hs) := by
                rw [events_perform, List.append_assoc]
      | receive =>
          let rest : Session := { s with events := s.events.tail }
          have split : s.events.head?.toList ++ s.events.tail = s.events := by
            cases s.events <;> rfl
          calc
            s.published (.receive :: hs) = s.events.head?.toList ++ rest.published hs :=
                List.append_assoc ..
            _ = s.events.head?.toList ++ (s.events.tail ++ rest.reports hs) :=
                congrArg _ (ih rest)
            _ = s.events ++ rest.reports hs := by rw [← List.append_assoc, split]

/-- A run that is under way has generated something, or failed to. -/
def Ready (s : Session) : Prop :=
  s.loop.phase = .running → s.inFlight.isSome

theorem Ready.perform {s : Session} {a : Action} {next : Loop} (ready : s.Ready)
    (stepped : s.loop.step? a = some next) : (s.perform a).Ready := by
  intro running
  rw [loop_perform stepped] at running
  cases Loop.moves_of_step? stepped with
  | elapse => rw [inFlight_perform_elapse stepped, Option.isSome_some]
  | send | stop =>
      rw [inFlight_perform_of_ne (by decide) (by decide)]
      exact ready running
  | wake | prolong | drain | finish | settle | again | rest | quit => simp_all

/-! Rows whose actions are possible in their turn: first what comes first in one, then all of it. -/

section First

variable {s : Session} {h : Happening} {hs : List Happening} {l : Loop}

theorem run?_happen (possible : s.loop.run? (actions (h :: hs)) = some l) :
    (s.happen h).loop.run? (actions hs) = some l := by
  cases h with
  | edit | receive => exact possible
  | action a =>
      obtain ⟨next, moves, rest⟩ := Loop.run?_cons_eq_some_iff.1 possible
      rwa [happen, loop_perform (Loop.step?_of_moves moves)]

theorem Ready.happen (ready : s.Ready) (possible : s.loop.run? (actions (h :: hs)) = some l) :
    (s.happen h).Ready := by
  cases h with
  | edit | receive => exact ready
  | action a =>
      obtain ⟨next, moves, -⟩ := Loop.run?_cons_eq_some_iff.1 possible
      exact ready.perform (Loop.step?_of_moves moves)

theorem length_report? (ready : s.Ready) (possible : s.loop.run? (actions (h :: hs)) = some l) :
    (s.report? h).toList.length = (actions [h]).count .finish := by
  cases h with
  | edit | receive => rfl
  | action a =>
      obtain ⟨next, moves, -⟩ := Loop.run?_cons_eq_some_iff.1 possible
      cases moves with
      | finish running =>
          obtain ⟨generated, flies⟩ := Option.isSome_iff_exists.1 (ready running)
          rw [report?_finish (Loop.step?_of_moves (.finish running)) flies]
          rfl
      | send | stop | wake | prolong | drain | elapse | settle | again | rest | quit => rfl

theorem inFlight_happen (running : s.loop.phase = .running) (goes : h ≠ .action .finish)
    (possible : s.loop.run? (actions (h :: hs)) = some l) :
    (s.happen h).loop.phase = .running ∧ (s.happen h).inFlight = s.inFlight := by
  cases h with
  | edit | receive => exact ⟨running, rfl⟩
  | action a =>
      obtain ⟨next, moves, -⟩ := Loop.run?_cons_eq_some_iff.1 possible
      have unfinished : a ≠ .finish := fun finishes => goes (congrArg _ finishes)
      obtain ⟨phase, -, waits⟩ := moves.of_running running unfinished
      rw [← loop_perform (Loop.step?_of_moves moves)] at phase
      exact ⟨phase, inFlight_perform_of_ne waits unfinished⟩

end First

section Row

variable {s : Session} {hs : List Happening} {l : Loop}

theorem loop_after (possible : s.loop.run? (actions hs) = some l) : (s.after hs).loop = l := by
  induction hs generalizing s with
  | nil => exact Option.some.inj possible
  | cons h hs ih => exact ih (run?_happen possible)

theorem length_reports (ready : s.Ready) (possible : s.loop.run? (actions hs) = some l) :
    (s.reports hs).length = (actions hs).count .finish := by
  induction hs generalizing s with
  | nil => rfl
  | cons h hs ih =>
      calc
        (s.reports (h :: hs)).length
            = (s.report? h).toList.length + ((s.happen h).reports hs).length :=
              List.length_append
        _ = (actions [h]).count .finish + (actions hs).count .finish := by
              rw [length_report? ready possible, ih (ready.happen possible) (run?_happen possible)]
        _ = (actions (h :: hs)).count .finish := by
              rw [← List.count_append, ← actions_append, List.singleton_append]

theorem inFlight_after (running : s.loop.phase = .running) (unfinished : .action .finish ∉ hs)
    (possible : s.loop.run? (actions hs) = some l) : (s.after hs).inFlight = s.inFlight := by
  induction hs generalizing s with
  | nil => rfl
  | cons h hs ih =>
      obtain ⟨goes, later⟩ := not_or.1 (List.mem_cons.not.1 unfinished)
      obtain ⟨phase, kept⟩ := inFlight_happen running (Ne.symm goes) possible
      exact (ih phase later (run?_happen possible)).trans kept

end Row

/-- A run that starts and then finishes publishes its event, and no other one. -/
theorem reports_run {s : Session} {during : List Happening} {l : Loop}
    (possible : s.loop.run? (actions (.action .elapse :: during ++ [.action .finish])) = some l)
    (unfinished : .action .finish ∉ during) :
    s.reports (.action .elapse :: during ++ [.action .finish]) =
      [s.eventOf s.tree (s.after (.action .elapse :: during)).tree] := by
  rw [actions_append] at possible
  obtain ⟨busy, row, last⟩ := Loop.run?_append_eq_some_iff.1 possible
  obtain ⟨running, starts, row⟩ := Loop.run?_cons_eq_some_iff.1 row
  obtain ⟨_, finishes, -⟩ := Loop.run?_cons_eq_some_iff.1 last
  have stepped := Loop.step?_of_moves starts
  have flies := inFlight_perform_elapse stepped
  have phase : running.phase = .running := by
    cases starts
    rfl
  rw [← loop_perform stepped] at row phase
  have silent : (s.perform .elapse).reports during = [] := by
    have ready : (s.perform .elapse).Ready := fun _ => flies ▸ rfl
    rw [List.eq_nil_iff_length_eq_zero, length_reports ready row, List.count_eq_zero]
    exact fun member => unfinished (mem_actions.1 member)
  have event : (s.after (.action .elapse :: during)).report? (.action .finish) =
      some (s.eventOf s.tree (s.after (.action .elapse :: during)).tree) := by
    have kept := (inFlight_after phase unfinished row).trans flies
    have stepped := Loop.step?_of_moves finishes
    rw [← loop_after row] at stepped
    have told := report?_finish stepped kept
    have options : ((s.perform .elapse).after during).options = s.options :=
      (settings_after s (.action .elapse :: during)).2.1
    rwa [options] at told
  calc
    s.reports (.action .elapse :: during ++ [.action .finish])
        = (s.perform .elapse).reports during ++
            (s.after (.action .elapse :: during)).reports [.action .finish] :=
          reports_append s (.action .elapse :: during) [.action .finish]
    _ = ((s.after (.action .elapse :: during)).report? (.action .finish)).toList := by
          rw [silent]
          exact List.append_nil _
    _ = [s.eventOf s.tree (s.after (.action .elapse :: during)).tree] := by
          rw [event]
          rfl

/-- Each run that finishes publishes one event, and the events are in the order of the runs. -/
structure Reports (s : Session) (hs : List Happening) : Prop where
  count : (s.published hs).length = (actions hs).count .finish
  /-- Ahead of the event of a run are those of the runs that were started before it. It tells of the
  files that were there when the run started and when it finished. -/
  inOrder : ∀ before during after,
    hs = before ++ (.action .elapse :: during ++ [.action .finish]) ++ after →
    .action .finish ∉ during →
      (s.published hs)[(actions before).count .elapse]? =
        some (s.eventOf (s.after before).tree
          (s.after (before ++ .action .elapse :: during)).tree)

/-- A session as it is started. -/
structure Fresh (s : Session) : Prop where
  loop : s.loop = .start s.options.initialRun
  inFlight : s.inFlight = none
  events : s.events = []

theorem fresh_of_start {lineup : Lineup} {options : Options} {now : Instant} {tree : FileTree}
    {s : Session} (started : start lineup options now tree = .ok s) :
    s.Fresh ∧ s.options = options := by
  unfold start at started
  split at started
  · cases started
  · cases started
    exact ⟨⟨rfl, rfl, rfl⟩, rfl⟩

theorem Fresh.ready {s : Session} (fresh : s.Fresh) : s.Ready := by
  intro running
  rw [fresh.loop] at running
  cases running

theorem eventOf_after (s : Session) (hs : List Happening) : (s.after hs).eventOf = s.eventOf := by
  obtain ⟨lineup, options, now⟩ := settings_after s hs
  unfold eventOf
  rw [lineup, options, now]

/-- When a run starts, the events of all runs before it have been published. -/
theorem length_reports_of_elapse {s : Session} {before rest : List Happening} {l : Loop}
    (fresh : s.Fresh)
    (possible : s.loop.run? (actions (before ++ .action .elapse :: rest)) = some l) :
    (s.reports before).length = (actions before).count .elapse := by
  rw [actions_append] at possible
  obtain ⟨waiting, first, row⟩ := Loop.run?_append_eq_some_iff.1 possible
  obtain ⟨_, starts, -⟩ := Loop.run?_cons_eq_some_iff.1 row
  rw [length_reports fresh.ready first]
  rw [fresh.loop] at first
  have apart := (Loop.balanced_of_run? first).apart
  rw [Loop.started_eq_count first, Loop.finished_eq_count first] at apart
  cases starts with
  | elapse debouncing => simpa [debouncing] using apart.symm

theorem reports_of_run? {s : Session} {hs : List Happening} {l : Loop} (fresh : s.Fresh)
    (possible : s.loop.run? (actions hs) = some l) : s.Reports hs where
  count := by
    rw [published_eq, fresh.events, List.nil_append]
    exact length_reports fresh.ready possible
  inOrder := by
    rintro before during after rfl unfinished
    have index : (s.reports before).length = (actions before).count .elapse := by
      rw [List.append_assoc] at possible
      exact length_reports_of_elapse fresh possible
    have row : (s.after before).reports (.action .elapse :: during ++ [.action .finish]) =
        [s.eventOf (s.after before).tree (s.after (before ++ .action .elapse :: during)).tree] := by
      rw [actions_append, actions_append] at possible
      obtain ⟨settled, possible, -⟩ := Loop.run?_append_eq_some_iff.1 possible
      obtain ⟨waiting, first, possible⟩ := Loop.run?_append_eq_some_iff.1 possible
      rw [← loop_after first] at possible
      rw [reports_run possible unfinished, eventOf_after, after_append]
    rw [published_eq, fresh.events, List.nil_append, reports_append, reports_append, row, ← index]
    simp

/-- A watch follows its changes, whatever happens to it: no change is left without a run that
starts after it, no run starts without a change, and every run that finishes publishes its event in
turn. -/
theorem faithful_of_start {lineup : Lineup} {options : Options} {now : Instant} {tree : FileTree}
    {s : Session} (started : start lineup options now tree = .ok s) {hs : List Happening} {l : Loop}
    (possible : s.loop.run? (actions hs) = some l) :
    (s.after hs).loop = l ∧ l.Faithful options.initialRun (actions hs) ∧ s.Reports hs := by
  obtain ⟨fresh, same⟩ := fresh_of_start started
  refine ⟨loop_after possible, ?_, reports_of_run? fresh possible⟩
  rw [fresh.loop, same] at possible
  exact Loop.faithful_of_run? possible

/-- Two changes during the initial run are answered by one more run, after which the loop waits. -/
theorem faithful_of_start_burst :
    let options : Options := { schemaPath := "schema.toml", generation := {}, watchFiles := false }
    let s : Session :=
      { lineup := {}, options, now := ⟨0, 0⟩, loop := .start true, tree := .empty }
    let hs : List Happening :=
      ([.take, .elapse, .send, .send, .finish, .settle, .take, .take, .rest, .elapse, .finish,
        .settle, .rest] : List Action).map .action
    let l : Loop := { sent := 3, taken := 3, started := 2, finished := 2, covered := 3 }
    (s.after hs).loop = l ∧ l.Faithful true (actions hs) ∧ s.Reports hs := by
  intro options s hs l
  have started : start {} options ⟨0, 0⟩ .empty = .ok s := rfl
  have possible : s.loop.run? (actions hs) = some l := rfl
  exact faithful_of_start started possible

end Session

end Scaffold.Watch
