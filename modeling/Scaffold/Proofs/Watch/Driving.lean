import Scaffold.Proofs.Watch.Events

/-!
What is done with a session from outside, as rows of happenings. The loop goes on by itself with
actions that are possible, so that what holds along all rows holds of a session however it is used.
-/

namespace Scaffold.Watch

theorem Loop.moves_of_next? {l : Loop} {a : Action} (goesOn : l.next? = some a) :
    ∃ next, Moves l a next := by
  have waits : l.hasChange = true → l.taken < l.sent := of_decide_eq_true
  have clear : ¬l.hasChange = true → l.sent ≤ l.taken := fun none =>
    Nat.le_of_not_lt (of_decide_eq_false (Bool.eq_false_iff.2 none))
  unfold next? at goesOn
  split at goesOn
  · next idle =>
    split_ifs at goesOn with stopped more <;> cases goesOn
    · exact ⟨_, .quit stopped (.inl idle)⟩
    · exact ⟨_, .wake idle (waits more)⟩
  · next debouncing =>
    split_ifs at goesOn with stopped more <;> cases goesOn
    · exact ⟨_, .quit stopped (.inr (.inl debouncing))⟩
    · exact ⟨_, .prolong debouncing (waits more)⟩
    · exact ⟨_, .elapse debouncing⟩
  · next running =>
    cases goesOn
    exact ⟨_, .finish running⟩
  · next settled =>
    split_ifs at goesOn with stopped <;> cases goesOn
    · exact ⟨_, .quit stopped (.inr (.inr settled))⟩
    · exact ⟨_, .settle settled (Bool.eq_false_iff.2 stopped)⟩
  · next draining =>
    split_ifs at goesOn with more <;> cases goesOn
    · exact ⟨_, .drain draining (waits more)⟩
    · cases pending : l.pending with
      | true => exact ⟨_, .again draining (clear more) pending⟩
      | false => exact ⟨_, .rest draining (clear more) pending⟩
  · cases goesOn

namespace Session

/-- A row of happenings leads from one session to the other, its actions being possible in turn. -/
def Reaches (s t : Session) : Prop :=
  ∃ hs l, s.loop.run? (actions hs) = some l ∧ s.after hs = t

namespace Reaches

theorem refl (s : Session) : s.Reaches s :=
  ⟨[], s.loop, rfl, rfl⟩

theorem trans {s t u : Session} (first : s.Reaches t) (second : t.Reaches u) : s.Reaches u := by
  obtain ⟨hs, l, possible, rfl⟩ := first
  obtain ⟨more, last, later, rfl⟩ := second
  refine ⟨hs ++ more, last, ?_, after_append s hs more⟩
  rw [actions_append]
  exact Loop.run?_append_eq_some_iff.2 ⟨l, possible, loop_after possible ▸ later⟩

theorem perform {s : Session} {a : Action} {next : Loop} (moves : s.loop.Moves a next) :
    s.Reaches (s.perform a) :=
  ⟨[.action a], next, Loop.run?_cons_eq_some_iff.2 ⟨next, moves, rfl⟩, rfl⟩

theorem edit (s : Session) (tree : FileTree) : s.Reaches { s with tree } :=
  ⟨[.edit tree], s.loop, rfl, rfl⟩

theorem receive (s : Session) : s.Reaches { s with events := s.events.tail } :=
  ⟨[.receive], s.loop, rfl, rfl⟩

end Reaches

theorem reaches_trigger (s : Session) : s.Reaches s.trigger :=
  .perform .send

theorem reaches_goOn (done : Session → Bool) (fuel : Nat) (s : Session) :
    s.Reaches (s.goOn done fuel) := by
  induction fuel generalizing s with
  | zero => exact .refl s
  | succ fuel ih =>
      rw [goOn]
      split
      · exact .refl s
      · split
        · exact .refl s
        · next a goesOn =>
          obtain ⟨next, moves⟩ := Loop.moves_of_next? goesOn
          exact (Reaches.perform moves).trans (ih (s.perform a))

theorem reaches_awaitRun (s : Session) : s.Reaches s.awaitRun.1 :=
  reaches_goOn _ _ s

theorem reaches_stop (s : Session) : s.Reaches s.stop :=
  (Reaches.perform .stop).trans (reaches_goOn _ _ _)

theorem reaches_next (s : Session) : s.Reaches s.next.1 := by
  have waited := reaches_goOn (fun s => !s.events.isEmpty) (2 * s.loop.patience + 4) s
  change s.Reaches (s.goOnUntil fun s => !s.events.isEmpty) at waited
  unfold next
  generalize s.goOnUntil (fun s => !s.events.isEmpty) = t at waited ⊢
  cases events : t.events with
  | nil => simpa [events] using waited
  | cons event rest => simpa [events] using waited.trans (.receive t)

theorem reaches_touched (s : Session) (path : String) (tree : FileTree) :
    s.Reaches (s.touched path tree) := by
  unfold touched
  extract_lets edited
  split
  · exact (Reaches.edit s tree).trans (reaches_trigger edited)
  · exact .edit s tree

end Session

end Scaffold.Watch
