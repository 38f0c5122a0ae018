import Scaffold.Watch.Basic
import Scaffold.Watch.Loop

/-!
Sessions: a watch in operation. The loop goes on only when somebody waits, so that all that came before
is there when it does.
-/

namespace Scaffold.Watch

/-- The run under way has generated `inFlight`; `events` are those that nobody has received yet. -/
structure Session where
  lineup : Lineup
  options : Options
  now : Instant
  loop : Loop
  tree : FileTree
  inFlight : Option (Except Fault Bundle) := none
  events : List Event := []
  calls : List Call := []

namespace Session

def start (lineup : Lineup) (options : Options) (now : Instant) (tree : FileTree) :
    Except String Session :=
  match subscriptionError? options tree with
  | some message => .error message
  | none => .ok { lineup, options, now, tree, loop := .start options.initialRun }

/-- An action of the loop with the work that belongs to it. A run reads its file when it starts, and
writes and reports when it finishes. -/
def perform (s : Session) (action : Action) : Session :=
  match s.loop.step? action with
  | none => s
  | some loop =>
      let s := { s with loop }
      match action, s.inFlight with
      | .elapse, _ =>
          let (calls, generated) := generate s.lineup s.options s.now s.tree
          { s with inFlight := some generated, calls := s.calls ++ calls }
      | .finish, some generated =>
          let (tree, event) := publish s.options s.tree generated
          { s with tree, inFlight := none, events := s.events ++ [event] }
      | _, _ => s

def goOn (done : Session → Bool) : Nat → Session → Session
  | 0, s => s
  | fuel + 1, s =>
      if done s then s
      else
        match s.loop.next? with
        | none => s
        | some action => goOn done fuel (s.perform action)

def goOnUntil (s : Session) (done : Session → Bool) : Session :=
  s.goOn done (2 * s.loop.patience + 4)

def trigger (s : Session) : Session :=
  s.perform .send

def next (s : Session) : Session × Option Event :=
  let s := s.goOnUntil fun s => !s.events.isEmpty
  match s.events with
  | [] => (s, none)
  | event :: events => ({ s with events }, some event)

def awaitRun (s : Session) : Session × Bool :=
  let s := s.goOnUntil fun s => s.loop.phase == .running
  (s, s.loop.phase == .running)

def stop (s : Session) : Session :=
  (s.perform .stop).goOnUntil fun s => s.loop.phase == .ended

/-- Files have changed at a path; the loop hears of it if it is the schema file. -/
def touched (s : Session) (path : String) (tree : FileTree) : Session :=
  let s := { s with tree }
  if s.options.watchFiles && s.options.concerns tree path then s.trigger else s

end Session

end Scaffold.Watch
