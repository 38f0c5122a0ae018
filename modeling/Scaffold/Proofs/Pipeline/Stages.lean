import Scaffold.Plugin.Stub
import Scaffold.Proofs.Pipeline.Jobs

/-!
The protocol of a pipeline's stages. Hooks are told before a stage, and after it or of its failure;
the work of the stage comes in between. The first stage that fails is the last one, and hooks only
look on.
-/

namespace Scaffold

open Job (notices)

/-- Activities of stages that were completed one after the other. -/
inductive Passed (hooks : List Hook) : List Stage → List Activity → Prop
  | nil : Passed hooks [] []
  | cons {s : Stage} {stages : List Stage} {work rest : List Activity} :
      (∀ x ∈ work, x.workOf? = some s) → Passed hooks stages rest →
      Passed hooks (s :: stages)
        (notices hooks s .before ++ work ++ notices hooks s .after ++ rest)

/-- What hooks are told of stages that are completed one after the other. -/
def announced (hooks : List Hook) (stages : List Stage) : List (Hook × Notice) :=
  stages.flatMap fun s => hooks.map (·, ⟨s, .before⟩) ++ hooks.map (·, ⟨s, .after⟩)

namespace Passed

variable {hooks : List Hook}

theorem append {stages more : List Stage} {activities rest : List Activity}
    (first : Passed hooks stages activities) (second : Passed hooks more rest) :
    Passed hooks (stages ++ more) (activities ++ rest) := by
  induction first with
  | nil => exact second
  | cons works _ ih =>
      rw [List.append_assoc]
      exact .cons works ih

theorem told {stages : List Stage} {activities : List Activity}
    (passed : Passed hooks stages activities) :
    activities.filterMap Activity.told? = announced hooks stages := by
  induction passed with
  | nil => rfl
  | @cons s stages work rest works _ ih =>
      simp only [List.filterMap_append, Job.filterMap_told?_notices, ih,
        Activity.filterMap_told?_of_workOf? works, List.append_nil]
      rfl

end Passed

/-- A trail that starts from files `t` follows stages in their order. Either all are completed, or
it breaks off at the first that fails, of which hooks are told the error that is returned. Files are as
before unless the last stage of all was entered. -/
inductive Trail.Follows (hooks : List Hook) (stages : List Stage) (t : FileTree) (r : Trail α) :
    Prop
  | completed {a : α} :
      r.result = .ok a → r.completed = stages → Passed hooks stages r.activities →
      (.write ∉ stages → r.tree = t) → Follows hooks stages t r
  | failed (before after : List Stage) {s : Stage} {e : PipelineError}
      {done work : List Activity} :
      stages = before ++ s :: after → r.result = .error e → s.FailsWith e → r.completed = before →
      r.activities = done ++ (notices hooks s .before ++ work ++ notices hooks s (.failed e)) →
      Passed hooks before done → (∀ x ∈ work, x.workOf? = some s) →
      (.write ∉ before ++ [s] → r.tree = t) → Follows hooks stages t r

namespace Trail.Follows

variable {hooks : List Hook} {stages more : List Stage} {t : FileTree}

theorem pure (hooks : List Hook) (a : α) (t : FileTree) : (Job.pure a t).Follows hooks [] t :=
  .completed rfl rfl .nil fun _ => rfl

theorem stage (hooks : List Hook) {s : Stage} {job : Job α} (works : job.WorksAt s)
    (t : FileTree) : (Job.stage hooks s job t).Follows hooks [s] t := by
  have early (untouched : .write ∉ [s]) : (job t).tree = t :=
    works.tree (fun last => untouched (List.mem_singleton.2 last.symm)) t
  cases ended : (job t).result with
  | error e =>
      rw [Job.stage_of_error ended]
      exact .failed [] [] rfl rfl (works.fails t e ended) (works.completed t) rfl .nil
        (works.activities t) early
  | ok a =>
      rw [Job.stage_of_ok ended, works.completed]
      refine .completed rfl rfl ?_ early
      simpa using Passed.cons (works.activities t) (.nil : Passed hooks [] [])

theorem andThen {first : Job α} {next : α → Job β} (one : (first t).Follows hooks stages t)
    (two : ∀ a, (first t).result = .ok a →
      (next a (first t).tree).Follows hooks more (first t).tree) :
    (first.andThen next t).Follows hooks (stages ++ more) t := by
  cases one with
  | failed before after split broke fails stop activities passed works early =>
      rw [Job.andThen_of_error broke]
      refine .failed before (after ++ more) ?_ rfl fails stop activities passed works early
      rw [split, List.append_assoc]
      rfl
  | completed ended all passed early =>
      rw [Job.andThen_of_ok ended]
      cases two _ ended with
      | completed later rest passedToo unwritten =>
          refine .completed later ?_ (passed.append passedToo) ?_
          · rw [all, rest]
          · intro untouched
            obtain ⟨here, there⟩ := not_or.1 (List.mem_append.not.1 untouched)
            exact (unwritten there).trans (early here)
      | failed before after split broke fails stop activities passedToo works unwritten =>
          refine .failed (stages ++ before) after ?_ broke fails ?_ ?_ (passed.append passedToo)
            works ?_
          · rw [split, List.append_assoc]
          · rw [all, stop]
          · rw [activities, ← List.append_assoc]
          · intro untouched
            rw [List.append_assoc] at untouched
            obtain ⟨here, there⟩ := not_or.1 (List.mem_append.not.1 untouched)
            exact (unwritten there).trans (early here)

theorem told {r : Trail α} (follows : r.Follows hooks stages t) :
    (∃ a, r.result = .ok a ∧ r.completed = stages ∧ r.told = announced hooks stages) ∨
    ∃ before s after e, stages = before ++ s :: after ∧ r.result = .error e ∧
      r.completed = before ∧
      r.told = announced hooks before ++
        (hooks.map (·, ⟨s, .before⟩) ++ hooks.map (·, ⟨s, .failed e⟩)) := by
  cases follows with
  | @completed a ended all passed _ => exact .inl ⟨a, ended, all, passed.told⟩
  | @failed before after s e done work split broke _ stop activities passed works _ =>
      refine .inr ⟨before, s, after, e, split, broke, stop, ?_⟩
      rw [Trail.told, activities]
      simp only [List.filterMap_append, passed.told, Job.filterMap_told?_notices,
        Activity.filterMap_told?_of_workOf? works, List.append_nil]

end Trail.Follows

/-- Two trails that differ in nothing but what hooks are told. -/
structure Trail.Alike (r r' : Trail α) : Prop where
  result : r.result = r'.result
  tree : r.tree = r'.tree
  completed : r.completed = r'.completed
  work : r.activities.filter (·.workOf?.isSome) = r'.activities.filter (·.workOf?.isSome)

namespace Trail.Alike

theorem refl (r : Trail α) : r.Alike r :=
  ⟨rfl, rfl, rfl, rfl⟩

theorem stage (hooks others : List Hook) (s : Stage) (job : Job α) (t : FileTree) :
    (Job.stage hooks s job t).Alike (Job.stage others s job t) := by
  have silent (hooks : List Hook) (event : StageEvent) :
      (notices hooks s event).filter (·.workOf?.isSome) = [] :=
    Job.filter_notices Option.isSome rfl hooks s event
  cases ended : (job t).result with
  | error e =>
      rw [Job.stage_of_error ended, Job.stage_of_error ended]
      exact ⟨rfl, rfl, rfl, by simp only [List.filter_append, silent]⟩
  | ok a =>
      rw [Job.stage_of_ok ended, Job.stage_of_ok ended]
      exact ⟨rfl, rfl, rfl, by simp only [List.filter_append, silent]⟩

theorem andThen {first first' : Job α} {next next' : α → Job β} {t : FileTree}
    (one : (first t).Alike (first' t)) (two : ∀ a t, (next a t).Alike (next' a t)) :
    (first.andThen next t).Alike (first'.andThen next' t) := by
  obtain ⟨result, tree, completed, work⟩ := one
  cases ended : (first t).result with
  | error e =>
      rw [Job.andThen_of_error ended, Job.andThen_of_error (result ▸ ended)]
      exact ⟨rfl, tree, completed, work⟩
  | ok a =>
      rw [Job.andThen_of_ok ended, Job.andThen_of_ok (result ▸ ended), ← tree]
      obtain ⟨later, treeAfter, completedToo, workToo⟩ := two a (first t).tree
      refine ⟨later, treeAfter, ?_, ?_⟩
      · simp only [completed, completedToo]
      · simp only [List.filter_append, work, workToo]

end Trail.Alike

namespace Pipeline

variable (p : Pipeline) (now : Instant) (source : Source) (path : Option String)
  (options : GenerationOptions) (t : FileTree)

theorem follows_run : (p.run now source path options t).Follows p.hooks Stage.all t := by
  have split : Stage.all = [.parse] ++ ([.validate] ++ ([.transform] ++ ([.generate] ++
    ([.postProcess] ++ ([.write] ++ []))))) := rfl
  rw [split]
  refine .andThen (.stage _ (p.lineup.worksAt_parse source path) _) fun parsed _ => ?_
  refine .andThen (.stage _ (p.worksAt_validate source parsed) _) fun warnings _ => ?_
  refine .andThen (.stage _ (p.worksAt_transformSchema parsed) _) fun schema _ => ?_
  refine .andThen (.stage _ (p.lineup.worksAt_generateFrom now schema options) _)
    fun generated _ => ?_
  refine .andThen (.stage _ (p.worksAt_postProcess generated) _) fun sifted _ => ?_
  refine .andThen (.stage _ (p.worksAt_emit sifted.1) _) fun report _ => ?_
  exact .pure _ _ _

theorem alike_run (others : List Hook) :
    (p.run now source path options t).Alike
      ({ p with hooks := others }.run now source path options t) := by
  refine .andThen (.stage _ _ _ _ _) fun parsed _ => ?_
  refine .andThen (.stage _ _ _ _ _) fun warnings _ => ?_
  refine .andThen (.stage _ _ _ _ _) fun schema _ => ?_
  refine .andThen (.stage _ _ _ _ _) fun generated _ => ?_
  refine .andThen (.stage _ _ _ _ _) fun sifted _ => ?_
  refine .andThen (.stage _ _ _ _ _) fun report _ => ?_
  exact .refl _

/-- A run follows the six stages. Hooks are told before each stage that it enters, and after it or
of its failure, each hook once and in the order of their registration. The run has a result if and
only if all six are completed, each once and in order; otherwise it returns what the stage that
failed fails with. Whatever hooks there are and however they respond, result, files and work are the
same. -/
theorem run_staged (others : List Hook) :
    let trail := p.run now source path options t
    trail.Follows p.hooks Stage.all t ∧
    ((∃ made, trail.result = .ok made) ↔ trail.completed = Stage.all) ∧
    ((∃ made, trail.result = .ok made ∧ trail.told = announced p.hooks Stage.all) ∨
      ∃ before s after e, Stage.all = before ++ s :: after ∧ trail.result = .error e ∧
        trail.completed = before ∧
        trail.told = announced p.hooks before ++
          (p.hooks.map (·, ⟨s, .before⟩) ++ p.hooks.map (·, ⟨s, .failed e⟩))) ∧
    trail.Alike ({ p with hooks := others }.run now source path options t) := by
  intro trail
  have follows : trail.Follows p.hooks Stage.all t := p.follows_run now source path options t
  refine ⟨follows, ?_, ?_, p.alike_run now source path options t others⟩
  · rcases follows.told with ⟨made, ended, all, -⟩ | ⟨before, s, after, e, split, broke, stop, -⟩
    · exact iff_of_true ⟨made, ended⟩ all
    · refine iff_of_false ?_ ?_
      · rintro ⟨made, ended⟩
        cases broke.symm.trans ended
      · intro all
        rw [← all, stop] at split
        simpa using congrArg List.length split
  · exact follows.told.imp_left fun ⟨made, ended, _, told⟩ => ⟨made, ended, told⟩

/-- A hook that fails at everything is told of a refused schema all the same. -/
example :
    let hook : Hook := { name := some "log", respond := fun n => .error n.stage.name }
    let fault : SchemaTransform := { name := "plural", apply := fun _ => .error "singular" }
    let p : Pipeline := {
      lineup := {
        parser := some (Stub.new "json").parser
        generators := [(Stub.new "rest").generator] }
      hooks := [hook]
      schemaTransforms := [fault] }
    let trail := p.run ⟨0, 0⟩ (.text "") none {} .empty
    trail.told.map (·.2) =
      [⟨.parse, .before⟩, ⟨.parse, .after⟩, ⟨.validate, .before⟩, ⟨.validate, .after⟩,
        ⟨.transform, .before⟩, ⟨.transform, .failed (.transform "plural" "singular")⟩] := by
  rfl

end Pipeline

end Scaffold
