import Scaffold.Pipeline.Run
import Scaffold.Proofs.Lineup.FailStop

/-!
How the trail of a job comes from those of its parts. The work of a stage is what it does besides
telling hooks; what the six stages of a pipeline do is work of their own, and only the last one
touches files.
-/

namespace Scaffold

namespace Activity

/-- The stage that an activity is work of. What hooks are told is work of none. -/
def workOf? : Activity → Option Stage
  | .notice _ _ => none
  | .refusal _ _ _ => none
  | .call (.parse _ _ _) => some .parse
  | .check _ _ => some .validate
  | .schemaTransform _ => some .transform
  | .call (.perform _ _) => some .generate
  | .bundleTransform _ => some .postProcess
  | .emission _ _ => some .write

/-- What a hook is told, and which one. -/
def told? : Activity → Option (Hook × Notice)
  | .notice h n => some (h, n)
  | _ => none

theorem filterMap_told?_of_workOf? {s : Stage} {activities : List Activity}
    (works : ∀ x ∈ activities, x.workOf? = some s) : activities.filterMap told? = [] := by
  rw [List.filterMap_eq_nil_iff]
  intro x member
  cases x with
  | notice => cases works _ member
  | _ => rfl

end Activity

namespace Trail

def work (r : Trail α) (s : Stage) : List Activity :=
  r.activities.filter (·.workOf? == some s)

def told (r : Trail α) : List (Hook × Notice) :=
  r.activities.filterMap Activity.told?

end Trail

namespace Job

variable {α β : Type} {first : Job α} {next : α → Job β} {t : FileTree} {e : PipelineError} {a : α}

theorem andThen_of_error (failed : (first t).result = .error e) :
    first.andThen next t =
      ⟨(first t).activities, (first t).completed, (first t).tree, .error e⟩ := by
  simp only [andThen, failed]

theorem andThen_of_ok (ended : (first t).result = .ok a) :
    first.andThen next t =
      ⟨(first t).activities ++ (next a (first t).tree).activities,
        (first t).completed ++ (next a (first t).tree).completed,
        (next a (first t).tree).tree, (next a (first t).tree).result⟩ := by
  simp only [andThen, ended]

theorem result_andThen (first : Job α) (next : α → Job β) (t : FileTree) :
    (first.andThen next t).result =
      (first t).result.bind fun a => (next a (first t).tree).result := by
  cases ended : (first t).result with
  | error e => rw [andThen_of_error ended, Except.bind]
  | ok a => rw [andThen_of_ok ended, Except.bind]

theorem result_andThen_eq_ok_iff {b : β} :
    (first.andThen next t).result = .ok b ↔
      ∃ a, (first t).result = .ok a ∧ (next a (first t).tree).result = .ok b := by
  rw [result_andThen]
  cases (first t).result <;> simp [Except.bind]

section Stage

variable {hooks : List Hook} {s : Stage} {job : Job α}

theorem stage_of_error (failed : (job t).result = .error e) :
    stage hooks s job t =
      ⟨notices hooks s .before ++ (job t).activities ++ notices hooks s (.failed e),
        (job t).completed, (job t).tree, .error e⟩ := by
  simp only [stage, failed]

theorem stage_of_ok (ended : (job t).result = .ok a) :
    stage hooks s job t =
      ⟨notices hooks s .before ++ (job t).activities ++ notices hooks s .after,
        (job t).completed ++ [s], (job t).tree, .ok a⟩ := by
  simp only [stage, ended]

@[simp] theorem result_stage (hooks : List Hook) (s : Stage) (job : Job α) (t : FileTree) :
    (stage hooks s job t).result = (job t).result := by
  cases ended : (job t).result with
  | error e => rw [stage_of_error ended]
  | ok a => rw [stage_of_ok ended]

@[simp] theorem tree_stage (hooks : List Hook) (s : Stage) (job : Job α) (t : FileTree) :
    (stage hooks s job t).tree = (job t).tree := by
  cases ended : (job t).result with
  | error e => rw [stage_of_error ended]
  | ok a => rw [stage_of_ok ended]

end Stage

theorem workOf?_of_mem_notices {hooks : List Hook} {s : Stage} {event : StageEvent} {x : Activity}
    (member : x ∈ notices hooks s event) : x.workOf? = none := by
  obtain ⟨h, -, member⟩ := List.mem_flatMap.1 member
  unfold tell at member
  cases responded : h.respond ⟨s, event⟩ with
  | ok => simp_all [Activity.workOf?]
  | error cause =>
      rw [responded] at member
      rcases List.mem_pair.1 member with rfl | rfl <;> rfl

theorem filter_notices (asked : Option Stage → Bool) (noWork : asked none = false)
    (hooks : List Hook) (s : Stage) (event : StageEvent) :
    (notices hooks s event).filter (asked ·.workOf?) = [] := by
  refine List.filter_eq_nil_iff.2 fun x member => ?_
  rw [workOf?_of_mem_notices member, noWork]
  exact Bool.false_ne_true

@[simp] theorem filterMap_told?_notices (hooks : List Hook) (s : Stage) (event : StageEvent) :
    (notices hooks s event).filterMap Activity.told? = hooks.map (·, ⟨s, event⟩) := by
  induction hooks with
  | nil => rfl
  | cons h hooks ih =>
      have first : (tell h ⟨s, event⟩).filterMap Activity.told? = [(h, ⟨s, event⟩)] := by
        unfold tell
        cases h.respond ⟨s, event⟩ <;> rfl
      calc
        (notices (h :: hooks) s event).filterMap Activity.told?
            = (tell h ⟨s, event⟩).filterMap Activity.told? ++
                (notices hooks s event).filterMap Activity.told? :=
              List.filterMap_append
        _ = (h :: hooks).map (·, ⟨s, event⟩) := by
              rw [first, ih]
              rfl

end Job

def Stage.FailsWith : Stage → PipelineError → Prop
  | .parse, .run .noParser => True
  | .parse, .run (.parser _ _) => True
  | .validate, .validation _ => True
  | .transform, .transform _ _ => True
  | .generate, .run (.plugin _) => True
  | .generate, .run (.merge _) => True
  | .postProcess, .transform _ _ => True
  | .write, .emit _ => True
  | _, _ => False

/-- What a job does is work of a stage and nothing else. -/
structure Job.WorksAt (s : Stage) (job : Job α) : Prop where
  activities : ∀ t, ∀ x ∈ (job t).activities, x.workOf? = some s
  completed : ∀ t, (job t).completed = []
  tree : s ≠ .write → ∀ t, (job t).tree = t
  fails : ∀ t e, (job t).result = .error e → s.FailsWith e

namespace Job.WorksAt

theorem pure (s : Stage) (a : α) : (Job.pure a).WorksAt s where
  activities _ := List.forall_mem_nil _
  completed _ := rfl
  tree _ _ := rfl
  fails _ _ failed := by cases failed

theorem andThen {s : Stage} {first : Job α} {next : α → Job β} (works : first.WorksAt s)
    (later : ∀ a, (next a).WorksAt s) : (first.andThen next).WorksAt s := by
  constructor
  · intro t x member
    cases ended : (first t).result with
    | error e =>
        rw [andThen_of_error ended] at member
        exact works.activities t x member
    | ok a =>
        rw [andThen_of_ok ended] at member
        exact (List.mem_append.1 member).elim (works.activities t x) ((later a).activities _ x)
  · intro t
    cases ended : (first t).result with
    | error e => rw [andThen_of_error ended, works.completed]
    | ok a => rw [andThen_of_ok ended, works.completed, (later a).completed, List.append_nil]
  · intro early t
    cases ended : (first t).result with
    | error e => rw [andThen_of_error ended, works.tree early]
    | ok a => rw [andThen_of_ok ended, (later a).tree early, works.tree early]
  · intro t e failed
    cases ended : (first t).result with
    | error cause =>
        rw [andThen_of_error ended] at failed
        cases failed
        exact works.fails t e ended
    | ok a =>
        rw [andThen_of_ok ended] at failed
        exact (later a).fails _ e failed

theorem filter_activities {s : Stage} {job : Job α} (works : job.WorksAt s) (t : FileTree)
    (other : Stage) :
    (job t).activities.filter (·.workOf? == some other) =
      if other = s then (job t).activities else [] := by
  split
  · next same =>
    subst same
    exact List.filter_eq_self.2 fun x member => beq_iff_eq.2 (works.activities t x member)
  · next apart =>
    refine List.filter_eq_nil_iff.2 fun x member => ?_
    simpa [works.activities t x member] using Ne.symm apart

end Job.WorksAt

namespace Job

variable {α β : Type} {hooks : List Hook} {s : Stage} {job : Job α} {next : α → Job β}
  {t : FileTree} {a : α}

/-! A stage ahead of other jobs, as long as files are not touched. -/

theorem stage_andThen_of_ok (works : job.WorksAt s) (early : s ≠ .write)
    (ended : (job t).result = .ok a) :
    (stage hooks s job).andThen next t =
      ⟨notices hooks s .before ++ (job t).activities ++ notices hooks s .after ++
          (next a t).activities,
        s :: (next a t).completed, (next a t).tree, (next a t).result⟩ := by
  rw [andThen_of_ok ((result_stage hooks s job t).trans ended), tree_stage, works.tree early,
    stage_of_ok ended, works.completed]
  rfl

theorem result_stage_andThen_eq_ok_iff {b : β} (works : job.WorksAt s) (early : s ≠ .write) :
    ((stage hooks s job).andThen next t).result = .ok b ↔
      ∃ a, (job t).result = .ok a ∧ (next a t).result = .ok b := by
  rw [result_andThen_eq_ok_iff, result_stage, tree_stage, works.tree early]

end Job

namespace Lineup

variable (l : Lineup)

theorem worksAt_parse (source : Source) (path : Option String) :
    (Job.ofRun (l.parse source path)).WorksAt .parse := by
  unfold parse
  cases l.parser with
  | none =>
      refine ⟨fun _ => List.forall_mem_nil _, fun _ => rfl, fun _ _ => rfl, ?_⟩
      intro t e failed
      cases failed
      trivial
  | some p =>
      refine ⟨fun _ => List.forall_mem_singleton.2 rfl, fun _ => rfl, fun _ _ => rfl, ?_⟩
      intro t e failed
      obtain ⟨cause, refused, rfl⟩ := mapError_eq_error_iff.1 failed
      obtain ⟨fault, -, rfl⟩ := mapError_eq_error_iff.1 refused
      trivial

theorem asked_of_mem_generateFrom {now : Instant} {schema : Schema} {options : GenerationOptions}
    {c : Call} (called : c ∈ (l.generateFrom now schema options).calls) :
    ∃ s, c.asked = .step s := by
  have trace := (l.failStop_perform schema options l.plan Bundle.distinct_empty).trace
  obtain ⟨s, -, asked⟩ := List.mem_map.1 (trace.subset (List.mem_map_of_mem called))
  exact ⟨s, asked.symm⟩

theorem worksAt_generateFrom (now : Instant) (schema : Schema) (options : GenerationOptions) :
    (Job.ofRun (l.generateFrom now schema options)).WorksAt .generate := by
  refine ⟨?_, fun _ => rfl, fun _ _ => rfl, ?_⟩
  · intro t x member
    obtain ⟨c, called, rfl⟩ := List.mem_map.1 member
    obtain ⟨s, asked⟩ := l.asked_of_mem_generateFrom called
    cases c with
    | parse => cases asked
    | perform => rfl
  · intro t e failed
    obtain ⟨cause, broke, rfl⟩ := mapError_eq_error_iff.1 failed
    have stops :=
      (l.failStop_perform schema options l.plan Bundle.distinct_empty).map (l.finish now)
    cases stops with
    | completed ended => cases ended.symm.trans broke
    | @failed before last _ stopped _ split _ fails =>
        cases stopped.symm.trans broke
        have called : last ∈ (l.generateFrom now schema options).calls := by
          rw [show (l.generateFrom now schema options).calls = before ++ [last] from split]
          exact List.mem_append_right before List.mem_cons_self
        obtain ⟨s, asked⟩ := l.asked_of_mem_generateFrom called
        cases fails with
        | parser => cases asked
        | plugin => trivial
        | collision => trivial

end Lineup

namespace Pipeline

variable (p : Pipeline)

theorem worksAt_validate (source : Source) (schema : Schema) :
    (p.validate source schema).WorksAt .validate := by
  refine ⟨?_, fun _ => rfl, fun _ _ => rfl, ?_⟩
  · intro t x member
    obtain ⟨parser, -, rfl⟩ := List.mem_map.1 member
    rfl
  · intro t e failed
    change p.validated source schema = _ at failed
    unfold validated at failed
    extract_lets report at failed
    split at failed
    · cases failed
    · cases failed
      trivial

theorem worksAt_transform {s : Stage} {applied : String → Activity}
    (works : ∀ name, (applied name).workOf? = some s)
    (fails : ∀ name message, s.FailsWith (.transform name message)) (fs : List (Transform α))
    (a : α) : (transform applied fs a).WorksAt s := by
  induction fs generalizing a with
  | nil => exact .pure s a
  | cons f fs ih =>
      unfold transform
      cases f.apply a with
      | error message =>
          refine ⟨fun _ => List.forall_mem_singleton.2 (works f.name), fun _ => rfl,
            fun _ _ => rfl, ?_⟩
          intro t e failed
          cases failed
          exact fails f.name message
      | ok next =>
          exact ⟨fun t => List.forall_mem_cons.2 ⟨works f.name, (ih next).activities t⟩,
            (ih next).completed, (ih next).tree, (ih next).fails⟩

theorem worksAt_transformSchema (schema : Schema) :
    (transform .schemaTransform p.schemaTransforms schema).WorksAt .transform :=
  worksAt_transform (s := .transform) (fun _ => rfl) (fun _ _ => trivial) p.schemaTransforms schema

theorem worksAt_postProcess (bundle : Bundle) :
    ((transform .bundleTransform p.bundleTransforms bundle).andThen
      fun b => .pure (p.sift b)).WorksAt .postProcess :=
  have works := worksAt_transform (s := .postProcess) (fun _ => rfl) (fun _ _ => trivial)
    p.bundleTransforms bundle
  works.andThen fun _ => .pure _ _

theorem worksAt_emit (bundle : Bundle) : (p.emit bundle).WorksAt .write := by
  unfold emit
  cases p.emitter with
  | none =>
      refine ⟨fun _ => List.forall_mem_nil _, fun _ => rfl, fun _ _ => rfl, ?_⟩
      intro t e failed
      cases failed
  | some emitter =>
      refine ⟨fun _ => List.forall_mem_singleton.2 rfl, fun _ => rfl, fun last => ?_, ?_⟩
      · exact absurd rfl last
      · intro t e failed
        obtain ⟨cause, -, rfl⟩ := mapError_eq_error_iff.1 failed
        trivial

end Pipeline

end Scaffold
