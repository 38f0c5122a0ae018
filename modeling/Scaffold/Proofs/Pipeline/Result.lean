import Scaffold.Proofs.Pipeline.Jobs

/-!
The result of a pipeline's run from those of its parts, and the work of each stage along it.
-/

namespace Scaffold

/-- What transforms make of a value, each of what the one before has made. -/
def applyAll (fs : List (Transform α)) (a : α) : Except String α :=
  fs.foldlM (fun a f => f.apply a) a

/-- Of some transforms `f` is the first that fails, after those `before` it. -/
structure FailsAt (fs : List (Transform α)) (a : α) (before : List (Transform α)) (f : Transform α)
    (message : String) : Prop where
  first : ∃ after, fs = before ++ f :: after
  fails : ∃ b, applyAll before a = .ok b ∧ f.apply b = .error message

namespace Pipeline

section Transform

variable {applied : String → Activity} {fs : List (Transform α)} {a b : α}

theorem applyAll_cons_eq_ok_iff {f : Transform α} :
    applyAll (f :: fs) a = .ok b ↔ ∃ next, f.apply a = .ok next ∧ applyAll fs next = .ok b := by
  rw [applyAll, List.foldlM_cons]
  exact bind_eq_ok_iff

variable (applied) in
theorem transform_of_failsAt {before : List (Transform α)} {f : Transform α} {message : String}
    (breaks : FailsAt fs a before f message) (t : FileTree) :
    transform applied fs a t =
      ⟨(before ++ [f]).map (applied ·.name), [], t, .error (.transform f.name message)⟩ := by
  obtain ⟨⟨after, rfl⟩, b, made, failed⟩ := breaks
  induction before generalizing a with
  | nil =>
      cases made
      simp only [List.nil_append, transform, failed, List.map_cons, List.map_nil]
  | cons g before ih =>
      obtain ⟨next, first, rest⟩ := applyAll_cons_eq_ok_iff.1 made
      simp only [List.cons_append, transform, first, ih rest, List.map_cons]

theorem result_transform_eq_ok_iff {t : FileTree} :
    (transform applied fs a t).result = .ok b ↔ applyAll fs a = .ok b := by
  induction fs generalizing a with
  | nil => exact ⟨fun same => by cases same; rfl, fun same => by cases same; rfl⟩
  | cons f fs ih =>
      rw [applyAll_cons_eq_ok_iff]
      cases first : f.apply a with
      | error message => simp [transform, first]
      | ok next => simp [transform, first, ih]

end Transform

/-- The values that a run goes through, each made of the one before: the schema that was read, in
which nothing is wrong; the one after the transforms; the bundle that was generated from it; and the
one after the transforms of bundles. -/
structure Composed (p : Pipeline) (now : Instant) (source : Source) (path : Option String)
    (options : GenerationOptions) (parsed schema : Schema) (generated finished : Bundle) :
    Prop where
  parse : (p.lineup.parse source path).result = .ok parsed
  validate : (p.findings source parsed).errors = []
  transform : applyAll p.schemaTransforms parsed = .ok schema
  generate : (p.lineup.generateFrom now schema options).result = .ok generated
  postProcess : applyAll p.bundleTransforms generated = .ok finished

section Run

variable {p : Pipeline} {now : Instant} {source : Source} {path : Option String}
  {options : GenerationOptions} {t : FileTree}

theorem result_ofRun_eq_ok_iff {run : Run α} {a : α} :
    (Job.ofRun run t).result = .ok a ↔ run.result = .ok a :=
  mapError_eq_ok_iff

theorem validated_of_errors {schema : Schema}
    (wrong : (p.findings source schema).errors ≠ []) :
    p.validated source schema = .error (.validation (p.findings source schema).errors) := by
  simp [validated, wrong]

theorem result_validate_eq_ok_iff {schema : Schema} {warnings : List String} :
    (p.validate source schema t).result = .ok warnings ↔
      (p.findings source schema).errors = [] ∧ (p.findings source schema).warnings = warnings := by
  change p.validated source schema = _ ↔ _
  by_cases fine : (p.findings source schema).errors = []
  · simp [validated, fine]
  · simp [validated_of_errors fine, fine]

theorem result_run_eq_ok_iff {made : Production} :
    (p.run now source path options t).result = .ok made ↔
      ∃ parsed schema generated finished report,
        p.Composed now source path options parsed schema generated finished ∧
        (p.emit (p.sift finished).1 t).result = .ok report ∧
        made = {
          schema
          bundle := (p.sift finished).1
          warnings := p.warnings ++ (p.findings source parsed).warnings ++ failureWarnings report
          filtered := (p.sift finished).2
          report } := by
  have parse := p.lineup.worksAt_parse source path
  have validate (parsed : Schema) := p.worksAt_validate source parsed
  have transform (parsed : Schema) := p.worksAt_transformSchema parsed
  have generate (schema : Schema) := p.lineup.worksAt_generateFrom now schema options
  have postProcess (generated : Bundle) := p.worksAt_postProcess generated
  unfold run
  simp only [Job.result_stage_andThen_eq_ok_iff parse (by decide),
    Job.result_stage_andThen_eq_ok_iff (validate _) (by decide),
    Job.result_stage_andThen_eq_ok_iff (transform _) (by decide),
    Job.result_stage_andThen_eq_ok_iff (generate _) (by decide),
    Job.result_stage_andThen_eq_ok_iff (postProcess _) (by decide),
    Job.result_andThen_eq_ok_iff, Job.result_stage, result_ofRun_eq_ok_iff,
    result_validate_eq_ok_iff, result_transform_eq_ok_iff, Job.pure, Except.ok.injEq]
  constructor
  · rintro ⟨parsed, read, _, ⟨valid, rfl⟩, schema, reshaped, generated, ran, _,
      ⟨finished, reworked, rfl⟩, report, emitted, rfl⟩
    exact ⟨parsed, schema, generated, finished, report, ⟨read, valid, reshaped, ran, reworked⟩,
      emitted, rfl⟩
  · rintro ⟨parsed, schema, generated, finished, report, composed, emitted, rfl⟩
    exact ⟨parsed, composed.parse, _, ⟨composed.validate, rfl⟩, schema, composed.transform,
      generated, composed.generate, _, ⟨finished, composed.postProcess, rfl⟩, report, emitted, rfl⟩

end Run

end Pipeline

end Scaffold
