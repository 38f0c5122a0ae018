/-!
The loop of a watch: changes are collected until none has come for a while, and then a run starts.
Changes during a run make one more run. What happens around the loop can come at any time, and where
the loop waits for several things that are all there, it may go on with any of them.
-/

namespace Scaffold.Watch

/-- Where the loop stands. It waits for a change while `idle`, for a quiet window while `debouncing`,
and for a run while `running`. A run that has just published its event is `settled`; then the changes
that came in the meantime are taken while `draining`. -/
inductive Phase where
  | idle | debouncing | running | settled | draining | ended
  deriving DecidableEq, Repr

/-- The state of a loop, with counts of what has happened so far: changes sent and taken, runs
started, and runs finished, each with an event. `covered` are the changes that were sent before the
latest run started, `pending` whether draining has taken one. -/
structure Loop where
  phase : Phase := .idle
  pending : Bool := false
  stopped : Bool := false
  sent : Nat := 0
  taken : Nat := 0
  started : Nat := 0
  finished : Nat := 0
  covered : Nat := 0
  deriving DecidableEq, Repr

inductive Action where
  | send | stop | take | elapse | finish | settle | rest | quit
  deriving DecidableEq, Repr

namespace Loop

/-- A loop at its start; an initial run is due to a change that is sent at once. -/
def start (initialRun : Bool) : Loop :=
  { sent := if initialRun then 1 else 0 }

def hasChange (l : Loop) : Bool :=
  l.taken < l.sent

def take? (l : Loop) : Option Loop :=
  if l.hasChange then
    match l.phase with
    | .idle => some { l with phase := .debouncing, taken := l.taken + 1 }
    | .debouncing => some { l with taken := l.taken + 1 }
    | .draining => some { l with pending := true, taken := l.taken + 1 }
    | _ => none
  else none

def step? (l : Loop) : Action → Option Loop
  | .send => some { l with sent := l.sent + 1 }
  | .stop => some { l with stopped := true }
  | .take => l.take?
  | .elapse =>
      if l.phase = .debouncing then
        some { l with phase := .running, started := l.started + 1, covered := l.sent }
      else none
  | .finish =>
      if l.phase = .running then some { l with phase := .settled, finished := l.finished + 1 }
      else none
  | .settle =>
      if l.phase = .settled ∧ !l.stopped then some { l with phase := .draining, pending := false }
      else none
  | .rest =>
      if l.phase = .draining ∧ !l.hasChange then
        some { l with phase := if l.pending then .debouncing else .idle }
      else none
  | .quit =>
      if l.stopped ∧ (l.phase = .idle ∨ l.phase = .debouncing ∨ l.phase = .settled) then
        some { l with phase := .ended }
      else none

/-- What the loop does next if nothing comes from outside; a signal to stop goes first. -/
def next? (l : Loop) : Option Action :=
  match l.phase with
  | .idle => if l.stopped then some .quit else if l.hasChange then some .take else none
  | .debouncing =>
      some (if l.stopped then .quit else if l.hasChange then .take else .elapse)
  | .running => some .finish
  | .settled => some (if l.stopped then .quit else .settle)
  | .draining => some (if l.hasChange then .take else .rest)
  | .ended => none

/-- A bound on the actions until the loop waits, ends, or a run has started or finished. -/
def patience (l : Loop) : Nat :=
  (l.sent - l.taken) + 4

end Loop

end Scaffold.Watch
