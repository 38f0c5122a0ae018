import Scaffold.FileTree
import Scaffold.Pipeline.Stage

/-!
Activities: what a pipeline does in the course of a run, in its order, and jobs that leave such a trail
behind.
-/

namespace Scaffold

/-- A `refusal` is logged where a hook has failed to take a notice. -/
inductive Activity where
  | notice (hook : Hook) (notice : Notice)
  | refusal (hook : Hook) (notice : Notice) (cause : String)
  | call (call : Call)
  | check (parser : Parser) (source : Source)
  | schemaTransform (name : String)
  | bundleTransform (name : String)
  | emission (emitter : Emitter) (bundle : Bundle)

structure Trail (α : Type) where
  activities : List Activity
  completed : List Stage := []
  tree : FileTree
  result : Except PipelineError α

abbrev Job (α : Type) := FileTree → Trail α

namespace Job

def pure (a : α) : Job α := fun t =>
  ⟨[], [], t, .ok a⟩

def andThen (first : Job α) (next : α → Job β) : Job β := fun t =>
  let a := first t
  match a.result with
  | .error e => ⟨a.activities, a.completed, a.tree, .error e⟩
  | .ok value =>
      let b := next value a.tree
      ⟨a.activities ++ b.activities, a.completed ++ b.completed, b.tree, b.result⟩

def ofRun (run : Run α) : Job α := fun t =>
  ⟨run.calls.map .call, [], t, run.result.mapError .run⟩

/-- Tells a hook, and notes it if that one fails to take the notice. -/
def tell (h : Hook) (n : Notice) : List Activity :=
  match h.respond n with
  | .ok () => [.notice h n]
  | .error cause => [.notice h n, .refusal h n cause]

def notices (hooks : List Hook) (stage : Stage) (event : StageEvent) : List Activity :=
  hooks.flatMap fun h => tell h ⟨stage, event⟩

/-- A job as a stage: hooks are told before it, and after it or of its failure. -/
def stage (hooks : List Hook) (s : Stage) (job : Job α) : Job α := fun t =>
  let work := job t
  match work.result with
  | .ok value =>
      ⟨notices hooks s .before ++ work.activities ++ notices hooks s .after, work.completed ++ [s],
        work.tree, .ok value⟩
  | .error e =>
      ⟨notices hooks s .before ++ work.activities ++ notices hooks s (.failed e), work.completed,
        work.tree, .error e⟩

end Job

end Scaffold
