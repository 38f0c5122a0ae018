import Scaffold.Lineup.Run
import Scaffold.Proofs.Merge.Bundles

/-!
How a run is put together from its steps, and which bundles it hands to plugins.
-/

namespace Scaffold

/-- Goes on from the result of a run, if it has one. -/
def Run.andThen (r : Run α) (next : α → Run β) : Run β :=
  match r.result with
  | .error e => ⟨r.calls, .error e⟩
  | .ok a => ⟨r.calls ++ (next a).calls, (next a).result⟩

namespace Run

theorem andThen_ok (calls : List Call) (a : α) (next : α → Run β) :
    andThen ⟨calls, .ok a⟩ next = ⟨calls ++ (next a).calls, (next a).result⟩ := rfl

theorem andThen_error (calls : List Call) (e : RunError) (next : α → Run β) :
    andThen ⟨calls, .error e⟩ next = ⟨calls, .error e⟩ := rfl

theorem andThen_assoc (r : Run α) (next : α → Run β) (last : β → Run γ) :
    (r.andThen next).andThen last = r.andThen fun a => (next a).andThen last := by
  obtain ⟨calls, result⟩ := r
  cases result with
  | error e => rfl
  | ok a =>
      rw [andThen_ok, andThen_ok]
      cases more : next a with
      | mk nextCalls nextResult =>
          cases nextResult with
          | error e => rfl
          | ok b => simp only [andThen_ok, List.append_assoc]

theorem result_andThen_eq_ok_iff {r : Run α} {next : α → Run β} {b : β} :
    (r.andThen next).result = .ok b ↔ ∃ a, r.result = .ok a ∧ (next a).result = .ok b := by
  obtain ⟨calls, result⟩ := r
  cases result with
  | error e => simp [andThen_error]
  | ok a => simp [andThen_ok]

theorem calls_andThen {r : Run α} {a : α} (ended : r.result = .ok a) (next : α → Run β) :
    (r.andThen next).calls = r.calls ++ (next a).calls := by
  unfold andThen
  rw [ended]

end Run

theorem mapError_eq_ok_iff {r : Except ε α} {f : ε → ε'} {a : α} :
    r.mapError f = .ok a ↔ r = .ok a := by
  cases r <;> simp [Except.mapError]

theorem mapError_eq_error_iff {r : Except ε α} {f : ε → ε'} {e' : ε'} :
    r.mapError f = .error e' ↔ ∃ e, r = .error e ∧ f e = e' := by
  cases r <;> simp [Except.mapError]

theorem map_eq_ok_iff {r : Except ε α} {f : α → β} {b : β} :
    r.map f = .ok b ↔ ∃ a, r = .ok a ∧ f a = b := by
  cases r <;> simp [Except.map]

theorem map_some_eq_ok_iff {r : Except ε α} {output : Option α} :
    some <$> r = .ok output ↔ ∃ a, r = .ok a ∧ output = some a := by
  cases r with
  | error e => simp [Functor.map, Except.map]
  | ok a => simp [Functor.map, Except.map, eq_comm]

namespace Step

theorem advance_eq_ok_iff {s : Step} {strategy : MergeStrategy} {input : StepInput}
    {next : Bundle} :
    s.advance strategy input = .ok next ↔
      s.answer input = .ok none ∧ input.bundle = next ∨
        ∃ output, s.answer input = .ok (some output) ∧
          Bundle.merge strategy (s.base input.bundle) output = .ok next := by
  unfold advance
  cases s.answer input with
  | error e => simp
  | ok output =>
      cases output with
      | none => simp
      | some bundle => simp [mapError_eq_ok_iff]

theorem advance_migrations_eq_ok_iff {d : Database} {previous : Schema}
    {strategy : MergeStrategy} {input : StepInput} {next : Bundle} :
    (migrations d previous).advance strategy input = .ok next ↔
      ∃ output, d.migrations input.schema (some previous) = .ok output ∧
        output.toList.foldlM (Bundle.merge strategy) input.bundle = .ok next := by
  rw [advance_eq_ok_iff]
  constructor
  · rintro (⟨absent, rfl⟩ | ⟨output, answered, merged⟩)
    · exact ⟨none, absent, rfl⟩
    · exact ⟨some output, answered, (Bundle.foldlM_merge_singleton _ _ _).trans merged⟩
  · rintro ⟨output, answered, merged⟩
    cases output with
    | none => exact .inl ⟨answered, Except.ok.inj merged⟩
    | some bundle =>
        exact .inr ⟨bundle, answered, (Bundle.foldlM_merge_singleton _ _ _).symm.trans merged⟩

theorem advance_eq_ok_iff_of_answer {s : Step} {strategy : MergeStrategy} {input : StepInput}
    {next : Bundle} {asked : Except PluginError Bundle}
    (answers : s.answer input = some <$> asked) :
    s.advance strategy input = .ok next ↔
      ∃ output, asked = .ok output ∧
        Bundle.merge strategy (s.base input.bundle) output = .ok next := by
  rw [advance_eq_ok_iff, answers]
  simp only [map_some_eq_ok_iff, Option.some.injEq, reduceCtorEq, and_false, exists_false,
    false_and, false_or]
  constructor
  · rintro ⟨output, ⟨a, answered, rfl⟩, merged⟩
    exact ⟨output, answered, merged⟩
  · rintro ⟨output, answered, merged⟩
    exact ⟨output, ⟨output, answered, rfl⟩, merged⟩

theorem advance_adapter_eq_ok_iff {a : Adapter} {strategy : MergeStrategy} {input : StepInput}
    {next : Bundle} :
    (adapter a).advance strategy input = .ok next ↔
      ∃ adapted, a.adapt input.bundle input.options = .ok adapted ∧
        Bundle.mergeAll strategy [adapted] = .ok next := by
  rw [advance_eq_ok_iff_of_answer rfl]
  unfold Bundle.mergeAll
  simp only [Bundle.foldlM_merge_singleton]
  rfl

end Step

/-- The plugin of a step, if it is one that works on what was made so far. -/
def Step.reader? : Step → Option Plugin
  | .adapter a => some (.adapter a)
  | .deploy d => some (.deploy d)
  | _ => none

/-- The bundle that a call hands to a plugin, and the plugin. Only adapters and deploy plugins are
handed one. -/
def Call.handed? : Call → Option (Plugin × Bundle)
  | .parse _ _ _ => none
  | .perform s input => s.reader?.map (·, input.bundle)

def Run.handed (r : Run α) : List (Plugin × Bundle) :=
  r.calls.filterMap Call.handed?

namespace Run

theorem handed_andThen {r : Run α} {a : α} (ended : r.result = .ok a) (next : α → Run β) :
    (r.andThen next).handed = r.handed ++ (next a).handed := by
  unfold handed
  rw [calls_andThen ended, List.filterMap_append]

theorem handed_andThen_error {r : Run α} {e : RunError} (failed : r.result = .error e)
    (next : α → Run β) : (r.andThen next).handed = r.handed := by
  unfold andThen
  rw [failed]
  rfl

end Run

namespace Lineup

variable (l : Lineup) (schema : Schema) (options : GenerationOptions)

def single (s : Step) (bundle : Bundle) : Run Bundle :=
  ⟨[.perform s ⟨schema, options, bundle⟩], s.advance l.strategy ⟨schema, options, bundle⟩⟩

theorem perform_cons (s : Step) (steps : List Step) (bundle : Bundle) :
    l.perform schema options (s :: steps) bundle =
      (l.single schema options s bundle).andThen (l.perform schema options steps) := by
  rw [perform]
  unfold single Run.andThen
  cases s.advance l.strategy ⟨schema, options, bundle⟩ <;> rfl

theorem perform_congr {m : Lineup} (strategy : l.strategy = m.strategy) :
    l.perform schema options = m.perform schema options := by
  funext steps
  induction steps with
  | nil => rfl
  | cons s steps ih =>
      funext bundle
      rw [perform_cons, perform_cons, ih]
      unfold single
      rw [strategy]

theorem perform_append (steps more : List Step) (bundle : Bundle) :
    l.perform schema options (steps ++ more) bundle =
      (l.perform schema options steps bundle).andThen (l.perform schema options more) := by
  induction steps generalizing bundle with
  | nil => rfl
  | cons s steps ih =>
      rw [List.cons_append, perform_cons, perform_cons, Run.andThen_assoc]
      exact congrArg _ (funext ih)

/-- What every step keeps holds of each bundle that a step is asked with, and of the bundle that the
run ends with. A run asks the plugins of its steps only. -/
theorem perform_keeps {P : Bundle → Prop} {steps : List Step}
    (kept : ∀ s ∈ steps, ∀ b next, P b →
      s.advance l.strategy ⟨schema, options, b⟩ = .ok next → P next)
    {bundle : Bundle} (start : P bundle) :
    (∀ c ∈ (l.perform schema options steps bundle).calls,
      ∃ s ∈ steps, ∃ b, P b ∧ c = .perform s ⟨schema, options, b⟩) ∧
    ∀ final, (l.perform schema options steps bundle).result = .ok final → P final := by
  induction steps generalizing bundle with
  | nil =>
      constructor
      · intro c member
        cases member
      · intro final ended
        cases ended
        exact start
  | cons s steps ih =>
      rw [perform_cons]
      unfold single Run.andThen
      cases advanced : s.advance l.strategy ⟨schema, options, bundle⟩ with
      | error e =>
          constructor
          · intro c member
            exact ⟨s, List.mem_cons_self, bundle, start, List.mem_singleton.1 member⟩
          · intro final ended
            cases ended
      | ok next =>
          have later := ih (fun t planned => kept t (List.mem_cons_of_mem s planned))
            (kept s List.mem_cons_self bundle next start advanced)
          refine ⟨?_, later.2⟩
          intro c member
          rcases List.mem_cons.1 member with rfl | member
          · exact ⟨s, List.mem_cons_self, bundle, start, rfl⟩
          · obtain ⟨t, planned, b, holds, rfl⟩ := later.1 c member
            exact ⟨t, List.mem_cons_of_mem s planned, b, holds, rfl⟩

theorem result_perform_cons {s : Step} {steps : List Step} {bundle final : Bundle} :
    (l.perform schema options (s :: steps) bundle).result = .ok final ↔
      ∃ next, s.advance l.strategy ⟨schema, options, bundle⟩ = .ok next ∧
        (l.perform schema options steps next).result = .ok final := by
  rw [perform_cons, Run.result_andThen_eq_ok_iff]
  rfl

theorem calls_perform_cons {s : Step} {steps : List Step} {bundle next : Bundle}
    (advanced : s.advance l.strategy ⟨schema, options, bundle⟩ = .ok next) :
    (l.perform schema options (s :: steps) bundle).calls =
      .perform s ⟨schema, options, bundle⟩ :: (l.perform schema options steps next).calls := by
  rw [perform_cons]
  exact Run.calls_andThen advanced _

theorem result_perform_append {steps more : List Step} {bundle final : Bundle} :
    (l.perform schema options (steps ++ more) bundle).result = .ok final ↔
      ∃ middle, (l.perform schema options steps bundle).result = .ok middle ∧
        (l.perform schema options more middle).result = .ok final := by
  rw [perform_append, Run.result_andThen_eq_ok_iff]

theorem handed_perform_append {steps more : List Step} {bundle middle : Bundle}
    (ended : (l.perform schema options steps bundle).result = .ok middle) :
    (l.perform schema options (steps ++ more) bundle).handed =
      (l.perform schema options steps bundle).handed ++
        (l.perform schema options more middle).handed := by
  rw [perform_append, Run.handed_andThen ended]

theorem generateFrom_calls (now : Instant) :
    (l.generateFrom now schema options).calls = (l.perform schema options l.plan .empty).calls :=
  rfl

theorem generateFrom_result (now : Instant) :
    (l.generateFrom now schema options).result =
      (l.perform schema options l.plan .empty).result.map (l.finish now) :=
  rfl

theorem handed_perform_of_unread {steps : List Step} (unread : ∀ s ∈ steps, s.reader? = none)
    (bundle : Bundle) : (l.perform schema options steps bundle).handed = [] := by
  apply List.filterMap_eq_nil_iff.2
  intro c member
  obtain ⟨s, planned, b, -, rfl⟩ := (l.perform_keeps schema options (P := fun _ => True)
    (fun _ _ _ _ _ _ => trivial) trivial).1 c member
  exact congrArg (Option.map _) (unread s planned)

end Lineup

end Scaffold
