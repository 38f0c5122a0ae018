import Mathlib.Data.List.Induction
import Scaffold.Proofs.Watch.Moves

/-!
No change is lost on the loop of a watch, and no run starts without one. The loop owes a run from
the moment it takes a change until the next run starts; while it is idle it owes none.
-/

namespace Scaffold.Watch.Loop

/-- A change was taken after the latest run had started. -/
def Owes (l : Loop) : Prop :=
  l.phase = .debouncing ∨ l.phase = .draining ∧ l.pending = true

theorem Moves.owes {l next : Loop} {a : Action} (moves : Moves l a next) (owes : next.Owes) :
    a = .take ∨ l.Owes := by
  cases moves with
  | wake | prolong | drain => exact .inl rfl
  | again draining none more => exact .inr (.inr ⟨draining, more⟩)
  | send | stop => exact .inr owes
  | elapse | finish | settle | rest | quit => simp [Owes] at owes

theorem Moves.owes_of_elapse {l next : Loop} (moves : Moves l .elapse next) :
    l.Owes ∧ ¬next.Owes := by
  cases moves with
  | elapse debouncing => exact ⟨.inl debouncing, by simp [Owes]⟩

/-- The books of a loop: runs do not overlap, each of them has a change of its own that was taken
before it, and as long as none is owed all changes taken were sent before the latest one. -/
structure Balanced (l : Loop) : Prop where
  apart : l.started = l.finished + if l.phase = .running then 1 else 0
  taken : l.taken ≤ l.sent
  started : l.started ≤ l.taken
  owed : l.Owes → l.started < l.taken
  covered : l.phase ≠ .ended → ¬l.Owes → l.taken ≤ l.covered
  clear : l.phase = .idle → l.pending = false

theorem balanced_start (initialRun : Bool) : (start initialRun).Balanced := by
  constructor <;> simp [start, Owes]

theorem Moves.balanced {l next : Loop} {a : Action} (moves : Moves l a next)
    (before : l.Balanced) : next.Balanced := by
  obtain ⟨apart, taken, started, owed, covered, clear⟩ := before
  cases moves with
  | stop => exact ⟨apart, taken, started, owed, covered, clear⟩
  | send => exact ⟨apart, Nat.le_succ_of_le taken, started, owed, covered, clear⟩
  | wake phase waits | prolong phase waits | drain phase waits =>
      -- A change that is taken makes a run owed, one more than were started.
      have apart : l.started = l.finished := by simpa [phase] using apart
      refine ⟨?_, waits, Nat.le_succ_of_le started, fun _ => Nat.lt_succ_of_le started, ?_, ?_⟩
      all_goals simp [Owes, phase, apart]
  | elapse debouncing =>
      -- The run that starts was owed, and it covers all changes sent, and so all taken.
      have apart : l.started = l.finished := by simpa [debouncing] using apart
      have owed : l.started < l.taken := owed (.inl debouncing)
      refine ⟨?_, taken, owed, ?_, fun _ _ => taken, ?_⟩
      all_goals simp [Owes, apart]
  | finish phase | settle phase | rest phase =>
      -- No run is owed, neither before nor after.
      have covered : l.taken ≤ l.covered := covered (by simp [phase]) (by simp_all [Owes])
      refine ⟨?_, taken, started, ?_, fun _ _ => covered, ?_⟩
      all_goals simp_all [Owes]
  | again draining none more =>
      have apart : l.started = l.finished := by simpa [draining] using apart
      have owed : l.started < l.taken := owed (.inr ⟨draining, more⟩)
      refine ⟨?_, taken, started, fun _ => owed, ?_, ?_⟩
      all_goals simp [Owes, apart]
  | quit _ phase =>
      have apart : l.started = l.finished := by
        rcases phase with phase | phase | phase <;> simpa [phase] using apart
      refine ⟨?_, taken, started, ?_, ?_, ?_⟩
      all_goals simp [Owes, apart]

theorem balanced_of_run? {initialRun : Bool} {as : List Action} {l : Loop}
    (reached : (start initialRun).run? as = some l) : l.Balanced :=
  run?_keeps (fun _ _ _ _ moves => moves.balanced) reached (balanced_start initialRun)

/-- The changes sent in a row of actions, and the one that the initial run is due to. -/
def sends (initialRun : Bool) (as : List Action) : Nat :=
  (if initialRun then 1 else 0) + as.count .send

theorem sent_eq_sends {initialRun : Bool} {as : List Action} {l : Loop}
    (reached : (start initialRun).run? as = some l) : l.sent = sends initialRun as :=
  sent_of_run? reached

theorem taken_eq_count {initialRun : Bool} {as : List Action} {l : Loop}
    (reached : (start initialRun).run? as = some l) : l.taken = as.count .take :=
  (taken_of_run? reached).trans (Nat.zero_add _)

theorem started_eq_count {initialRun : Bool} {as : List Action} {l : Loop}
    (reached : (start initialRun).run? as = some l) : l.started = as.count .elapse :=
  (started_of_run? reached).trans (Nat.zero_add _)

theorem finished_eq_count {initialRun : Bool} {as : List Action} {l : Loop}
    (reached : (start initialRun).run? as = some l) : l.finished = as.count .finish :=
  (finished_of_run? reached).trans (Nat.zero_add _)

theorem Moves.covered {l next : Loop} {a : Action} (moves : Moves l a next) :
    next.covered = if a = .elapse then l.sent else l.covered := by
  cases moves <;> rfl

theorem covered_of_run? {initialRun : Bool} {as : List Action} {l : Loop}
    (reached : (start initialRun).run? as = some l) :
    l.covered = 0 ∨ ∃ before after, as = before ++ .elapse :: after ∧ .elapse ∉ after ∧
      l.covered = sends initialRun before := by
  induction as using List.reverseRecOn generalizing l with
  | nil =>
      cases reached
      exact .inl rfl
  | append_singleton as a ih =>
      obtain ⟨middle, first, last⟩ := run?_append_eq_some_iff.1 reached
      obtain ⟨next, moves, same⟩ := run?_cons_eq_some_iff.1 last
      cases same
      rw [moves.covered]
      by_cases starts : a = .elapse
      · subst starts
        exact .inr ⟨as, [], rfl, List.not_mem_nil, (if_pos rfl).trans (sent_eq_sends first)⟩
      · rw [if_neg starts]
        refine (ih first).imp_right ?_
        rintro ⟨before, after, rfl, latest, covered⟩
        refine ⟨before, after ++ [a], by simp, ?_, covered⟩
        simpa [latest] using Ne.symm starts

theorem covered_of_idle {initialRun : Bool} {as : List Action} {l : Loop}
    (reached : (start initialRun).run? as = some l) (idle : l.phase = .idle)
    (taken : .take ∈ as) :
    ∃ before after, as = before ++ .elapse :: after ∧ .elapse ∉ after ∧
      as.count .take ≤ sends initialRun before := by
  have within := (balanced_of_run? reached).covered (by simp [idle]) (by simp [Owes, idle])
  rw [taken_eq_count reached] at within
  rcases covered_of_run? reached with none | ⟨before, after, split, latest, covered⟩
  · have some := List.count_pos_iff.2 taken
    omega
  · exact ⟨before, after, split, latest, covered ▸ within⟩

theorem count_elapse_le_sends {initialRun : Bool} {as : List Action} {l : Loop}
    (reached : (start initialRun).run? as = some l) :
    as.count .elapse ≤ sends initialRun as := by
  have balanced := balanced_of_run? reached
  rw [← started_eq_count reached, ← sent_eq_sends reached]
  exact Nat.le_trans balanced.started balanced.taken

theorem take_mem_between {l last : Loop} {before between after : List Action}
    (reached : l.run? (before ++ .elapse :: between ++ .elapse :: after) = some last) :
    .take ∈ between := by
  obtain ⟨second, first, rest⟩ := run?_append_eq_some_iff.1 reached
  obtain ⟨third, -, start⟩ := run?_append_eq_some_iff.1 first
  obtain ⟨running, starts, row⟩ := run?_cons_eq_some_iff.1 start
  obtain ⟨_, again, -⟩ := run?_cons_eq_some_iff.1 rest
  by_contra without
  have settled : ¬second.Owes := by
    refine run?_keeps (P := fun l => ¬l.Owes) ?_ row starts.owes_of_elapse.2
    intro a member l next moves clear owes
    exact (moves.owes owes).elim (fun take => without (take ▸ member)) clear
  exact settled again.owes_of_elapse.1

/-! Runs that are still to come. -/

/-- How many runs can start if no further change is sent. -/
def upcoming (l : Loop) : Nat :=
  match l.phase with
  | .idle => min 2 (l.sent - l.taken)
  | .debouncing => 1 + min 1 (l.sent - l.taken)
  | .running => min 1 (l.sent - l.taken)
  | .settled => min 1 (l.sent - l.taken)
  | .draining => if l.pending then 1 else min 1 (l.sent - l.taken)
  | .ended => 0

theorem Moves.upcoming {l next : Loop} {a : Action} (moves : Moves l a next) (quiet : a ≠ .send) :
    [a].count .elapse + next.upcoming ≤ l.upcoming := by
  cases moves <;> grind [Loop.upcoming]

theorem count_elapse_le_upcoming {l last : Loop} {as : List Action} (quiet : .send ∉ as)
    (reached : l.run? as = some last) : as.count .elapse + last.upcoming ≤ l.upcoming := by
  refine run?_count_le (P := fun _ => True) ?_ reached trivial
  intro a member l next moves _
  exact ⟨trivial, moves.upcoming fun sends => quiet (sends ▸ member)⟩

/-- The loop cannot come to rest before a run has started. -/
def Due (l : Loop) : Prop :=
  match l.phase with
  | .idle => False
  | .debouncing => True
  | .running => l.taken < l.sent
  | .settled => l.taken < l.sent
  | .draining => l.pending = true ∨ l.taken < l.sent
  | .ended => True

theorem Moves.due {l next : Loop} {a : Action} (moves : Moves l a next) (waits : a ≠ .elapse)
    (due : l.Due) : next.Due := by
  cases moves <;> grind [Due]

theorem due_of_run? {l last : Loop} {as : List Action} (without : .elapse ∉ as) (due : l.Due)
    (reached : l.run? as = some last) : last.Due :=
  run?_keeps (fun _ member _ _ moves => moves.due fun starts => without (starts ▸ member))
    reached due

/-- The loop can start a run by itself, with nothing coming from outside. -/
def CanStart (l : Loop) : Prop :=
  ∃ more last, .send ∉ more ∧ .stop ∉ more ∧ .elapse ∈ more ∧ l.run? more = some last

theorem canStart_of_debouncing {l : Loop} (debouncing : l.phase = .debouncing) : l.CanStart :=
  ⟨[.elapse], _, by simp, by simp, by simp, run?_cons_eq_some_iff.2 ⟨_, .elapse debouncing, rfl⟩⟩

theorem CanStart.cons {l next : Loop} {a : Action} (moves : Moves l a next)
    (inner : a ≠ .send ∧ a ≠ .stop) (later : next.CanStart) : l.CanStart := by
  obtain ⟨more, last, noSend, noStop, starts, reached⟩ := later
  refine ⟨a :: more, last, ?_, ?_, List.mem_cons_of_mem a starts,
    run?_cons_eq_some_iff.2 ⟨next, moves, reached⟩⟩
  · simp [Ne.symm inner.1, noSend]
  · simp [Ne.symm inner.2, noStop]

theorem canStart_of_draining {l : Loop} (draining : l.phase = .draining)
    (due : l.pending = true ∨ l.taken < l.sent) : l.CanStart := by
  -- All changes are taken one by one; the first of them already makes the run due.
  induction waiting : l.sent - l.taken generalizing l with
  | zero =>
      have more : l.pending = true := due.resolve_right (by omega)
      exact .cons (.again draining (by omega) more) (by decide) (canStart_of_debouncing rfl)
  | succ n ih =>
      refine .cons (.drain draining (by omega)) (by decide) (ih draining (.inl rfl) ?_)
      change l.sent - (l.taken + 1) = n
      omega

theorem canStart_of_settled {l : Loop} (settled : l.phase = .settled) (due : l.taken < l.sent)
    (going : l.stopped = false) : l.CanStart :=
  .cons (.settle settled going) (by decide) (canStart_of_draining rfl (.inr due))

theorem Due.canStart {l : Loop} (due : l.Due) (going : l.stopped = false)
    (lives : l.phase ≠ .ended) : l.CanStart := by
  unfold Due at due
  cases phase : l.phase with
  | idle => simp [phase] at due
  | debouncing => exact canStart_of_debouncing phase
  | running =>
      simp only [phase] at due
      exact .cons (.finish phase) (by decide) (canStart_of_settled rfl due going)
  | settled =>
      simp only [phase] at due
      exact canStart_of_settled phase due going
  | draining =>
      simp only [phase] at due
      exact canStart_of_draining phase due
  | ended => exact absurd phase lives

theorem going_of_run? {initialRun : Bool} {as : List Action} {l : Loop}
    (reached : (start initialRun).run? as = some l) (unstopped : .stop ∉ as) :
    l.stopped = false ∧ l.phase ≠ .ended := by
  refine run?_keeps (P := fun l => l.stopped = false ∧ l.phase ≠ .ended) ?_ reached
    ⟨rfl, by simp [start]⟩
  intro a member l next moves ⟨going, lives⟩
  cases moves with
  | stop => exact absurd member unstopped
  | quit stopped => simp [going] at stopped
  | send => exact ⟨going, lives⟩
  | wake | prolong | drain | elapse | finish | settle | again | rest => simp_all

/-- Until a run under way finishes, it goes on, no other one starts, and nothing is taken. -/
theorem Moves.of_running {l next : Loop} {a : Action} (moves : Moves l a next)
    (running : l.phase = .running) (unfinished : a ≠ .finish) :
    next.phase = .running ∧ next.taken = l.taken ∧ a ≠ .elapse := by
  cases moves with
  | send | stop => exact ⟨running, rfl, by decide⟩
  | finish => exact absurd rfl unfinished
  | wake phase | prolong phase | drain phase | elapse phase | settle phase | again phase
    | rest phase => simp [running] at phase
  | quit _ phase => simp [running] at phase

theorem run?_of_running {l last : Loop} {as : List Action} (running : l.phase = .running)
    (unfinished : .finish ∉ as) (reached : l.run? as = some last) :
    last.phase = .running ∧ last.taken = l.taken := by
  refine run?_keeps (P := fun m => m.phase = .running ∧ m.taken = l.taken) ?_ reached
    ⟨running, rfl⟩
  intro a member m next moves ⟨running, same⟩
  have goes : a ≠ .finish := fun finishes => unfinished (finishes ▸ member)
  obtain ⟨phase, taken, -⟩ := moves.of_running running goes
  exact ⟨phase, taken.trans same⟩

/-- What is left when a run has finished during which changes came: one more run is due, and no
second one unless more changes are sent. -/
theorem due_of_finish {l settled : Loop} {during : List Action} (balanced : l.Balanced)
    (unfinished : .finish ∉ during) (changed : .send ∈ during)
    (reached : l.run? (.elapse :: during ++ [.finish]) = some settled) :
    settled.Due ∧ settled.upcoming ≤ 1 := by
  obtain ⟨busy, row, last⟩ := run?_append_eq_some_iff.1 reached
  obtain ⟨running, starts, row⟩ := run?_cons_eq_some_iff.1 row
  obtain ⟨_, finishes, same⟩ := run?_cons_eq_some_iff.1 last
  cases same
  have phase : running.phase = .running := by
    cases starts
    rfl
  have bounded := (starts.balanced balanced).taken
  have taken := (run?_of_running phase unfinished row).2
  have sent := sent_of_run? row
  have some := List.count_pos_iff.2 changed
  cases finishes with
  | finish =>
      constructor
      · change busy.taken < busy.sent
        omega
      · exact Nat.min_le_left 1 _

theorem follow_up {initialRun : Bool} {before during after : List Action} {l : Loop}
    (reached : (start initialRun).run?
      (before ++ (.elapse :: during ++ [.finish]) ++ after) = some l)
    (unfinished : .finish ∉ during) (changed : .send ∈ during) (quiet : .send ∉ after) :
    after.count .elapse ≤ 1 ∧ (.elapse ∉ after → l.Due) := by
  obtain ⟨settled, first, rest⟩ := run?_append_eq_some_iff.1 reached
  obtain ⟨waiting, early, row⟩ := run?_append_eq_some_iff.1 first
  obtain ⟨due, most⟩ := due_of_finish (balanced_of_run? early) unfinished changed row
  have bounded := count_elapse_le_upcoming quiet rest
  refine ⟨by omega, ?_⟩
  intro without
  exact due_of_run? without due rest

/-- No change is lost along a row of actions, and there is no run without one. -/
structure Faithful (initialRun : Bool) (actions : List Action) (l : Loop) : Prop where
  /-- While the loop is idle, every change taken so far was sent before the latest run started:
  changes are taken in the order in which they were sent, and no more were taken than had been sent
  by then. -/
  idle : l.phase = .idle → l.pending = false ∧ (.take ∈ actions →
    ∃ before after, actions = before ++ .elapse :: after ∧ .elapse ∉ after ∧
      actions.count .take ≤ sends initialRun before)
  /-- Runs do not overlap. -/
  apart : actions.count .elapse = actions.count .finish + if l.phase = .running then 1 else 0
  /-- There are no more runs than changes. -/
  paid : actions.count .elapse ≤ sends initialRun actions
  /-- Between the starts of two runs a change is taken. -/
  between : ∀ before between after,
    actions = before ++ .elapse :: between ++ .elapse :: after → .take ∈ between
  /-- Changes that come during a run, and none after it, make at most one more run, and the loop is
  not idle before that one has started. Unless it is stopped, it can start it by itself. -/
  followUp : ∀ before during after,
    actions = before ++ (.elapse :: during ++ [.finish]) ++ after →
    .finish ∉ during → .send ∈ during → .send ∉ after →
      after.count .elapse ≤ 1 ∧ (l.phase = .idle → .elapse ∈ after) ∧
        (.elapse ∉ after → .stop ∉ actions → l.CanStart)

theorem faithful_of_run? {initialRun : Bool} {actions : List Action} {l : Loop}
    (reached : (start initialRun).run? actions = some l) : l.Faithful initialRun actions where
  idle := fun idle => ⟨(balanced_of_run? reached).clear idle, covered_of_idle reached idle⟩
  apart := by
    rw [← started_eq_count reached, ← finished_eq_count reached]
    exact (balanced_of_run? reached).apart
  paid := count_elapse_le_sends reached
  between := by
    rintro before between after rfl
    exact take_mem_between reached
  followUp := by
    rintro before during after rfl unfinished changed quiet
    obtain ⟨most, due⟩ := follow_up reached unfinished changed quiet
    refine ⟨most, ?_, ?_⟩
    · intro idle
      by_contra without
      simpa [Due, idle] using due without
    · intro without unstopped
      obtain ⟨going, lives⟩ := going_of_run? reached unstopped
      exact (due without).canStart going lives

end Scaffold.Watch.Loop
