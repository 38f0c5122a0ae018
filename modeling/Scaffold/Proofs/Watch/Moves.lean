import Mathlib.Data.List.Count
import Scaffold.Watch.Loop

/-!
How the loop of a watch goes from state to state, one action at a time and along rows of actions.
What its counters say can be read off the actions.
-/

namespace Scaffold.Watch.Loop

/-- Each way in which an action is possible, with the state after it. -/
inductive Moves (l : Loop) : Action → Loop → Prop
  | send : Moves l .send { l with sent := l.sent + 1 }
  | stop : Moves l .stop { l with stopped := true }
  | wake : l.phase = .idle → l.taken < l.sent →
      Moves l .take { l with phase := .debouncing, taken := l.taken + 1 }
  | prolong : l.phase = .debouncing → l.taken < l.sent →
      Moves l .take { l with taken := l.taken + 1 }
  | drain : l.phase = .draining → l.taken < l.sent →
      Moves l .take { l with pending := true, taken := l.taken + 1 }
  | elapse : l.phase = .debouncing →
      Moves l .elapse { l with phase := .running, started := l.started + 1, covered := l.sent }
  | finish : l.phase = .running →
      Moves l .finish { l with phase := .settled, finished := l.finished + 1 }
  | settle : l.phase = .settled → l.stopped = false →
      Moves l .settle { l with phase := .draining, pending := false }
  | again : l.phase = .draining → l.sent ≤ l.taken → l.pending = true →
      Moves l .rest { l with phase := .debouncing }
  | rest : l.phase = .draining → l.sent ≤ l.taken → l.pending = false →
      Moves l .rest { l with phase := .idle }
  | quit : l.stopped = true → l.phase = .idle ∨ l.phase = .debouncing ∨ l.phase = .settled →
      Moves l .quit { l with phase := .ended }

theorem take?_eq_some {l next : Loop} (taken : l.take? = some next) : Moves l .take next := by
  unfold take? hasChange at taken
  split at taken
  · next waits =>
    have waits : l.taken < l.sent := of_decide_eq_true waits
    split at taken
    · next idle =>
      cases taken
      exact .wake idle waits
    · next debouncing =>
      cases taken
      exact .prolong debouncing waits
    · next draining =>
      cases taken
      exact .drain draining waits
    · cases taken
  · cases taken

theorem moves_of_step? {l next : Loop} {a : Action} (stepped : l.step? a = some next) :
    Moves l a next := by
  cases a with
  | send =>
      cases stepped
      exact .send
  | stop =>
      cases stepped
      exact .stop
  | take => exact take?_eq_some stepped
  | elapse =>
      rw [step?, Option.ite_none_right_eq_some] at stepped
      obtain ⟨debouncing, same⟩ := stepped
      cases same
      exact .elapse debouncing
  | finish =>
      rw [step?, Option.ite_none_right_eq_some] at stepped
      obtain ⟨running, same⟩ := stepped
      cases same
      exact .finish running
  | settle =>
      rw [step?, Option.ite_none_right_eq_some] at stepped
      obtain ⟨⟨settled, going⟩, same⟩ := stepped
      cases same
      exact .settle settled (by simpa using going)
  | rest =>
      rw [step?, Option.ite_none_right_eq_some] at stepped
      obtain ⟨⟨draining, none⟩, same⟩ := stepped
      have none : l.sent ≤ l.taken := by simpa [hasChange] using none
      by_cases more : l.pending
      · rw [if_pos more] at same
        cases same
        exact .again draining none more
      · rw [if_neg more] at same
        cases same
        exact .rest draining none (Bool.eq_false_iff.2 more)
  | quit =>
      rw [step?, Option.ite_none_right_eq_some] at stepped
      obtain ⟨⟨stopped, waits⟩, same⟩ := stepped
      cases same
      exact .quit stopped waits

theorem step?_of_moves {l next : Loop} {a : Action} (moves : Moves l a next) :
    l.step? a = some next := by
  cases moves with
  | send => rfl
  | stop => rfl
  | wake idle waits => simp [step?, take?, hasChange, idle, waits]
  | prolong debouncing waits => simp [step?, take?, hasChange, debouncing, waits]
  | drain draining waits => simp [step?, take?, hasChange, draining, waits]
  | elapse debouncing => exact if_pos debouncing
  | finish running => exact if_pos running
  | settle settled going => simp [step?, settled, going]
  | again draining none more => simp [step?, hasChange, draining, none, more]
  | rest draining none clear => simp [step?, hasChange, draining, none, clear]
  | quit stopped waits => exact if_pos ⟨stopped, waits⟩

theorem step?_eq_some_iff {l next : Loop} {a : Action} :
    l.step? a = some next ↔ Moves l a next :=
  ⟨moves_of_step?, step?_of_moves⟩

def run? (l : Loop) : List Action → Option Loop
  | [] => some l
  | a :: as => (l.step? a).bind fun next => next.run? as

@[simp] theorem run?_nil (l : Loop) : l.run? [] = some l := rfl

theorem run?_cons_eq_some_iff {l last : Loop} {a : Action} {as : List Action} :
    l.run? (a :: as) = some last ↔ ∃ next, Moves l a next ∧ next.run? as = some last := by
  rw [run?, Option.bind_eq_some_iff]
  simp only [step?_eq_some_iff]

theorem run?_append_eq_some_iff {l last : Loop} {as more : List Action} :
    l.run? (as ++ more) = some last ↔
      ∃ middle, l.run? as = some middle ∧ middle.run? more = some last := by
  induction as generalizing l with
  | nil => simp
  | cons a as ih =>
      simp only [List.cons_append, run?_cons_eq_some_iff, ih]
      constructor
      · rintro ⟨next, moves, middle, first, second⟩
        exact ⟨middle, ⟨next, moves, first⟩, second⟩
      · rintro ⟨middle, ⟨next, moves, first⟩, second⟩
        exact ⟨next, moves, middle, first, second⟩

/-- What every action among some keeps is kept along a row of them. -/
theorem run?_keeps {P : Loop → Prop} {as : List Action}
    (kept : ∀ a ∈ as, ∀ l next, Moves l a next → P l → P next) {l last : Loop}
    (reached : l.run? as = some last) (start : P l) : P last := by
  induction as generalizing l with
  | nil => exact Option.some.inj reached ▸ start
  | cons a as ih =>
      obtain ⟨next, moves, rest⟩ := run?_cons_eq_some_iff.1 reached
      exact ih (fun b member => kept b (List.mem_cons_of_mem a member)) rest
        (kept a List.mem_cons_self l next moves start)

/-- Along a row an action comes no more often than a count that it draws on. -/
theorem run?_count_le {P : Loop → Prop} {ahead : Loop → Nat} {b : Action} {as : List Action}
    (draws : ∀ a ∈ as, ∀ l next, Moves l a next → P l →
      P next ∧ [a].count b + ahead next ≤ ahead l)
    {l last : Loop} (reached : l.run? as = some last) (start : P l) :
    as.count b + ahead last ≤ ahead l := by
  induction as generalizing l with
  | nil =>
      cases reached
      simp
  | cons a as ih =>
      obtain ⟨next, moves, rest⟩ := run?_cons_eq_some_iff.1 reached
      obtain ⟨kept, first⟩ := draws a List.mem_cons_self l next moves start
      have later := ih (fun b member => draws b (List.mem_cons_of_mem a member)) rest kept
      rw [← List.singleton_append, List.count_append]
      omega

/-! The counters of a state count actions. -/

section Counters

variable {as : List Action} {l last : Loop}

theorem run?_counter {counter : Loop → Nat} {b : Action}
    (counts : ∀ l a next, Moves l a next → counter next = counter l + [a].count b)
    (reached : l.run? as = some last) : counter last = counter l + as.count b := by
  induction as generalizing l with
  | nil =>
      cases reached
      rfl
  | cons a as ih =>
      obtain ⟨next, moves, rest⟩ := run?_cons_eq_some_iff.1 reached
      rw [ih rest, counts l a next moves, Nat.add_assoc, ← List.count_append,
        List.singleton_append]

theorem sent_of_run? (reached : l.run? as = some last) :
    last.sent = l.sent + as.count .send :=
  run?_counter (fun _ _ _ moves => by cases moves <;> rfl) reached

theorem taken_of_run? (reached : l.run? as = some last) :
    last.taken = l.taken + as.count .take :=
  run?_counter (fun _ _ _ moves => by cases moves <;> rfl) reached

theorem started_of_run? (reached : l.run? as = some last) :
    last.started = l.started + as.count .elapse :=
  run?_counter (fun _ _ _ moves => by cases moves <;> rfl) reached

theorem finished_of_run? (reached : l.run? as = some last) :
    last.finished = l.finished + as.count .finish :=
  run?_counter (fun _ _ _ moves => by cases moves <;> rfl) reached

end Counters

end Scaffold.Watch.Loop
