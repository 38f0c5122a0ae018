import Scaffold.Plugin.Stub
import Scaffold.Proofs.Pipeline.Result

/-!
A run of a pipeline as a plain composition: what is left of it without hooks and stages.
-/

namespace Scaffold

namespace Job

variable {α β : Type} {first : Job α} {next : α → Job β} {t : FileTree} {e : PipelineError} {a : α}

theorem work_stage {s : Stage} {job : Job α} (works : job.WorksAt s) (hooks : List Hook)
    (t : FileTree) (other : Stage) :
    (stage hooks s job t).work other = if other = s then (job t).activities else [] := by
  have silent (event : StageEvent) :
      (notices hooks s event).filter (·.workOf? == some other) = [] :=
    filter_notices (· == some other) rfl hooks s event
  rw [Trail.work]
  cases ended : (job t).result with
  | error e =>
      rw [stage_of_error ended]
      simp only [List.filter_append, silent, works.filter_activities, List.nil_append,
        List.append_nil]
  | ok a =>
      rw [stage_of_ok ended]
      simp only [List.filter_append, silent, works.filter_activities, List.nil_append,
        List.append_nil]

theorem work_andThen_of_ok (ended : (first t).result = .ok a) (s : Stage) :
    (first.andThen next t).work s = (first t).work s ++ (next a (first t).tree).work s := by
  rw [andThen_of_ok ended]
  exact List.filter_append _ _

theorem stage_andThen_of_error {hooks : List Hook} {s : Stage} {job : Job α}
    (works : job.WorksAt s) (failed : (job t).result = .error e) :
    ((stage hooks s job).andThen next t).result = .error e ∧
      ((stage hooks s job).andThen next t).work s = (job t).activities := by
  have work : (stage hooks s job t).work s = (job t).activities := by
    rw [work_stage works, if_pos rfl]
  rw [andThen_of_error ((result_stage hooks s job t).trans failed)]
  exact ⟨rfl, work⟩

end Job

/-- A trail that ends as another one does, to which it adds the work of some stages only. -/
structure Trail.Leads (stages : List Stage) (r rest : Trail α) : Prop where
  result : r.result = rest.result
  tree : r.tree = rest.tree
  work : ∀ s ∉ stages, r.work s = rest.work s

namespace Trail.Leads

theorem refl (r : Trail α) : r.Leads [] r :=
  ⟨rfl, rfl, fun _ _ => rfl⟩

theorem stage {hooks : List Hook} {s : Stage} {stages : List Stage} {job : Job α} {next : α → Job β}
    {t : FileTree} {a : α} {rest : Trail β} (works : job.WorksAt s) (early : s ≠ .write)
    (ended : (job t).result = .ok a) (leads : (next a t).Leads stages rest) :
    ((Job.stage hooks s job).andThen next t).Leads (s :: stages) rest := by
  refine ⟨?_, ?_, ?_⟩
  · rw [Job.stage_andThen_of_ok works early ended, leads.result]
  · rw [Job.stage_andThen_of_ok works early ended, leads.tree]
  · intro other apart
    obtain ⟨here, there⟩ := List.ne_and_not_mem_of_not_mem_cons apart
    rw [Job.work_andThen_of_ok ((Job.result_stage hooks s job t).trans ended),
      Job.work_stage works, if_neg here, List.nil_append, Job.tree_stage, works.tree early,
      leads.work other there]

end Trail.Leads

namespace Emitter

theorem exists_write_eq_ok_iff (e : Emitter) (t : FileTree) (bundle : Bundle) :
    (∃ report, (e.write t bundle).2 = .ok report) ↔
      e.dryRun = true ∨ (t.makeDirectories e.directory).2 = .ok () := by
  unfold write prepare
  cases e.dryRun with
  | true => simp
  | false =>
      cases t.makeDirectories e.directory with
      | mk made result => cases result <;> simp [Except.mapError]

end Emitter

namespace Pipeline

variable {p : Pipeline} {now : Instant} {source : Source} {path : Option String}
  {options : GenerationOptions} {t : FileTree}

theorem emit_of_none (absent : p.emitter = none) (bundle : Bundle) (t : FileTree) :
    p.emit bundle t = ⟨[], [], t, .ok none⟩ := by
  unfold emit
  rw [absent]

theorem emit_of_some {e : Emitter} (present : p.emitter = some e) (bundle : Bundle)
    (t : FileTree) :
    p.emit bundle t =
      ⟨[.emission e bundle], [], (e.write t bundle).1,
        ((e.write t bundle).2.map some).mapError .emit⟩ := by
  unfold emit
  rw [present]

theorem activities_emit (p : Pipeline) (bundle : Bundle) (t : FileTree) :
    (p.emit bundle t).activities = p.emitter.toList.map (.emission · bundle) := by
  cases present : p.emitter with
  | none => rw [emit_of_none present, Option.toList_none, List.map_nil]
  | some e => rw [emit_of_some present, Option.toList_some, List.map_singleton]

/-- Without a directory to make, nothing can stop an emitter. -/
theorem exists_emit_eq_ok_iff (p : Pipeline) (bundle : Bundle) (t : FileTree) :
    (∃ report, (p.emit bundle t).result = .ok report) ↔
      ∀ e, p.emitter = some e →
        e.dryRun = true ∨ (t.makeDirectories e.directory).2 = .ok () := by
  cases present : p.emitter with
  | none => simp [emit_of_none present]
  | some e =>
      simp only [emit_of_some present, Option.some.injEq, forall_eq', mapError_eq_ok_iff,
        ← e.exists_write_eq_ok_iff t bundle]
      cases (e.write t bundle).2 <;> simp [Except.map]

theorem exists_result_eq_ok_iff :
    (∃ made, (p.run now source path options t).result = .ok made) ↔
      (∃ parsed schema generated finished,
        p.Composed now source path options parsed schema generated finished) ∧
      ∀ e, p.emitter = some e →
        e.dryRun = true ∨ (t.makeDirectories e.directory).2 = .ok () := by
  constructor
  · rintro ⟨made, ended⟩
    obtain ⟨parsed, schema, generated, finished, report, composed, emitted, -⟩ :=
      result_run_eq_ok_iff.1 ended
    exact ⟨⟨parsed, schema, generated, finished, composed⟩,
      (p.exists_emit_eq_ok_iff _ t).1 ⟨report, emitted⟩⟩
  · rintro ⟨⟨parsed, schema, generated, finished, composed⟩, ready⟩
    obtain ⟨report, emitted⟩ := (p.exists_emit_eq_ok_iff (p.sift finished).1 t).2 ready
    exact ⟨_, result_run_eq_ok_iff.2
      ⟨parsed, schema, generated, finished, report, composed, emitted, rfl⟩⟩

theorem perm_sift (p : Pipeline) (bundle : Bundle) :
    ((p.sift bundle).1.files.map (·.path) ++ (p.sift bundle).2).Perm
      (bundle.files.map (·.path)) := by
  simp only [sift, ← List.map_append]
  exact (List.filter_append_perm p.keeps bundle.files).map _

theorem sift_of_filters (absent : p.filters = []) (bundle : Bundle) :
    p.sift bundle = (bundle, []) := by
  have all (file : OutputFile) : p.keeps file = true := by
    rw [keeps, absent]
    rfl
  have kept : bundle.files.filter p.keeps = bundle.files :=
    List.filter_eq_self.2 fun file _ => all file
  rw [sift, kept]
  simp [all]

/-- How a result comes from the last bundle. The files that every filter accepts are kept as they
are, of the others the paths are listed, and the emitter is handed what is kept. -/
structure Settled (p : Pipeline) (t : FileTree) (finished : Bundle) (trail : Trail Production)
    (made : Production) : Prop where
  bundle : made.bundle =
    { finished with files := finished.files.filter fun file => p.filters.all (· file) }
  filtered : made.filtered =
    (finished.files.filter fun file => !p.filters.all (· file)).map (·.path)
  accounted : (made.bundle.files.map (·.path) ++ made.filtered).Perm (finished.files.map (·.path))
  handed : trail.work .write = p.emitter.toList.map (.emission · made.bundle)
  report : (p.emit made.bundle t).result = .ok made.report
  tree : trail.tree = (p.emit made.bundle t).tree

section Leads

variable {parsed schema : Schema} {generated finished : Bundle} {stages : List Stage}
  {rest : Trail Production}

/-! Each stage that is completed leads to the next one. -/

theorem passes_parse {next : Schema → Job Production}
    (read : (p.lineup.parse source path).result = .ok parsed)
    (leads : (next parsed t).Leads stages rest) :
    ((Job.stage p.hooks .parse (.ofRun (p.lineup.parse source path))).andThen next t).Leads
      (.parse :: stages) rest :=
  .stage (p.lineup.worksAt_parse source path) (by decide) (result_ofRun_eq_ok_iff.2 read) leads

theorem passes_validate {next : List String → Job Production}
    (fine : (p.findings source parsed).errors = [])
    (leads : (next (p.findings source parsed).warnings t).Leads stages rest) :
    ((Job.stage p.hooks .validate (p.validate source parsed)).andThen next t).Leads
      (.validate :: stages) rest :=
  .stage (p.worksAt_validate source parsed) (by decide)
    (result_validate_eq_ok_iff.2 ⟨fine, rfl⟩) leads

theorem passes_transform {next : Schema → Job Production}
    (reshaped : applyAll p.schemaTransforms parsed = .ok schema)
    (leads : (next schema t).Leads stages rest) :
    ((Job.stage p.hooks .transform
      (transform .schemaTransform p.schemaTransforms parsed)).andThen next t).Leads
      (.transform :: stages) rest :=
  .stage (p.worksAt_transformSchema parsed) (by decide)
    (result_transform_eq_ok_iff.2 reshaped) leads

theorem passes_generate {next : Bundle → Job Production}
    (ran : (p.lineup.generateFrom now schema options).result = .ok generated)
    (leads : (next generated t).Leads stages rest) :
    ((Job.stage p.hooks .generate
      (.ofRun (p.lineup.generateFrom now schema options))).andThen next t).Leads
      (.generate :: stages) rest :=
  .stage (p.lineup.worksAt_generateFrom now schema options) (by decide)
    (result_ofRun_eq_ok_iff.2 ran) leads

theorem passes_postProcess {next : Bundle × List String → Job Production}
    (reworked : applyAll p.bundleTransforms generated = .ok finished)
    (leads : (next (p.sift finished) t).Leads stages rest) :
    ((Job.stage p.hooks .postProcess
      ((transform .bundleTransform p.bundleTransforms generated).andThen
        fun b => .pure (p.sift b))).andThen next t).Leads
      (.postProcess :: stages) rest := by
  refine .stage (p.worksAt_postProcess generated) (by decide) ?_ leads
  exact Job.result_andThen_eq_ok_iff.2
    ⟨finished, result_transform_eq_ok_iff.2 reworked, rfl⟩

/-! How far a run gets, given what its parts return. -/

theorem leads_transform (read : (p.lineup.parse source path).result = .ok parsed)
    (fine : (p.findings source parsed).errors = []) :
    ∃ next : Schema → Job Production,
      (p.run now source path options t).Leads [.parse, .validate]
        ((Job.stage p.hooks .transform
          (transform .schemaTransform p.schemaTransforms parsed)).andThen next t) :=
  ⟨_, passes_parse read (passes_validate fine (.refl _))⟩

theorem leads_generate (read : (p.lineup.parse source path).result = .ok parsed)
    (fine : (p.findings source parsed).errors = [])
    (reshaped : applyAll p.schemaTransforms parsed = .ok schema) :
    ∃ next : Bundle → Job Production,
      (p.run now source path options t).Leads [.parse, .validate, .transform]
        ((Job.stage p.hooks .generate
          (.ofRun (p.lineup.generateFrom now schema options))).andThen next t) :=
  ⟨_, passes_parse read (passes_validate fine (passes_transform reshaped (.refl _)))⟩

theorem leads_postProcess (read : (p.lineup.parse source path).result = .ok parsed)
    (fine : (p.findings source parsed).errors = [])
    (reshaped : applyAll p.schemaTransforms parsed = .ok schema)
    (ran : (p.lineup.generateFrom now schema options).result = .ok generated) :
    ∃ next : Bundle × List String → Job Production,
      (p.run now source path options t).Leads [.parse, .validate, .transform, .generate]
        ((Job.stage p.hooks .postProcess
          ((transform .bundleTransform p.bundleTransforms generated).andThen
            fun b => .pure (p.sift b))).andThen next t) :=
  ⟨_, passes_parse read (passes_validate fine (passes_transform reshaped
    (passes_generate ran (.refl _))))⟩

theorem leads_write
    (composed : p.Composed now source path options parsed schema generated finished) :
    ∃ finish : Option WriteReport → Production,
      (p.run now source path options t).Leads
        [.parse, .validate, .transform, .generate, .postProcess]
        ((Job.stage p.hooks .write (p.emit (p.sift finished).1)).andThen
          (fun report => .pure (finish report)) t) :=
  ⟨_, passes_parse composed.parse (passes_validate composed.validate
    (passes_transform composed.transform (passes_generate composed.generate
      (passes_postProcess composed.postProcess (.refl _)))))⟩

end Leads

theorem settled_of_result {made : Production}
    (ended : (p.run now source path options t).result = .ok made) :
    ∃ parsed generated finished,
      p.Composed now source path options parsed made.schema generated finished ∧
      p.Settled t finished (p.run now source path options t) made := by
  obtain ⟨parsed, schema, generated, finished, report, composed, emitted, rfl⟩ :=
    result_run_eq_ok_iff.1 ended
  obtain ⟨finish, leads⟩ := leads_write (t := t) composed
  have written : (Job.stage p.hooks .write (p.emit (p.sift finished).1) t).result = .ok report :=
    (Job.result_stage _ _ _ _).trans emitted
  refine ⟨parsed, generated, finished, composed, rfl, rfl, ?_, ?_, emitted, ?_⟩
  · exact p.perm_sift finished
  · rw [leads.work .write (by decide), Job.work_andThen_of_ok written,
      Job.work_stage (p.worksAt_emit _), if_pos rfl, activities_emit]
    exact List.append_nil _
  · rw [leads.tree, Job.andThen_of_ok written, Job.tree_stage]
    rfl

theorem run_of_schemaTransform_failsAt {parsed : Schema} {before : List SchemaTransform}
    {f : SchemaTransform} {message : String}
    (read : (p.lineup.parse source path).result = .ok parsed)
    (fine : (p.findings source parsed).errors = [])
    (breaks : FailsAt p.schemaTransforms parsed before f message) :
    let trail := p.run now source path options t
    trail.result = .error (.transform f.name message) ∧
      trail.work .transform = (before ++ [f]).map (.schemaTransform ·.name) := by
  intro trail
  have broken := transform_of_failsAt .schemaTransform breaks t
  obtain ⟨next, leads⟩ : ∃ next, trail.Leads _ _ := leads_transform read fine
  obtain ⟨failed, work⟩ := Job.stage_andThen_of_error
    (p.worksAt_transformSchema parsed) (congrArg Trail.result broken)
  refine ⟨leads.result.trans failed, ?_⟩
  rw [leads.work .transform (by decide), work, broken]

theorem run_of_bundleTransform_failsAt {parsed schema : Schema} {generated : Bundle}
    {before : List BundleTransform} {f : BundleTransform} {message : String}
    (read : (p.lineup.parse source path).result = .ok parsed)
    (fine : (p.findings source parsed).errors = [])
    (reshaped : applyAll p.schemaTransforms parsed = .ok schema)
    (ran : (p.lineup.generateFrom now schema options).result = .ok generated)
    (breaks : FailsAt p.bundleTransforms generated before f message) :
    let trail := p.run now source path options t
    trail.result = .error (.transform f.name message) ∧
      trail.work .postProcess = (before ++ [f]).map (.bundleTransform ·.name) := by
  intro trail
  have broken : ((transform .bundleTransform p.bundleTransforms generated).andThen
      fun b => .pure (p.sift b)) t = ⟨(before ++ [f]).map (.bundleTransform ·.name), [], t,
        .error (.transform f.name message)⟩ := by
    have stopped := transform_of_failsAt .bundleTransform breaks t
    rw [Job.andThen_of_error (congrArg Trail.result stopped), stopped]
  obtain ⟨next, leads⟩ : ∃ next, trail.Leads _ _ := leads_postProcess read fine reshaped ran
  obtain ⟨failed, work⟩ := Job.stage_andThen_of_error
    (p.worksAt_postProcess generated) (congrArg Trail.result broken)
  refine ⟨leads.result.trans failed, ?_⟩
  rw [leads.work .postProcess (by decide), work, broken]

/-- A lineup around which nothing is attached, and a source in which nothing is wrong. -/
structure Bare (p : Pipeline) (source : Source) (path : Option String) : Prop where
  schemaTransforms : p.schemaTransforms = []
  bundleTransforms : p.bundleTransforms = []
  filters : p.filters = []
  emitter : p.emitter = none
  fine : ∀ parsed, (p.lineup.parse source path).result = .ok parsed →
    (p.findings source parsed).errors = []

theorem Bare.result (bare : p.Bare source path) :
    (p.run now source path options t).result.map (·.bundle) =
      (p.lineup.generate now source path options).result.mapError .run := by
  cases read : (p.lineup.parse source path).result with
  | error e =>
      have failed : (Job.ofRun (p.lineup.parse source path) t).result = .error (.run e) :=
        mapError_eq_error_iff.2 ⟨e, read, rfl⟩
      unfold run Lineup.generate
      rw [(Job.stage_andThen_of_error (p.lineup.worksAt_parse source path) failed).1]
      simp only [read]
      rfl
  | ok parsed =>
      have fine := bare.fine parsed read
      have reshaped : applyAll p.schemaTransforms parsed = .ok parsed := by
        rw [bare.schemaTransforms]
        rfl
      have generated : (p.lineup.generate now source path options).result =
          (p.lineup.generateFrom now parsed options).result := by
        simp only [Lineup.generate, read]
      rw [generated]
      cases ran : (p.lineup.generateFrom now parsed options).result with
      | error e =>
          have failed : (Job.ofRun (p.lineup.generateFrom now parsed options) t).result =
              .error (.run e) := mapError_eq_error_iff.2 ⟨e, ran, rfl⟩
          obtain ⟨next, leads⟩ := leads_generate (t := t) read fine reshaped
          rw [leads.result, (Job.stage_andThen_of_error
            (p.lineup.worksAt_generateFrom now parsed options) failed).1]
          rfl
      | ok bundle =>
          have reworked : applyAll p.bundleTransforms bundle = .ok bundle := by
            rw [bare.bundleTransforms]
            rfl
          have emitted := congrArg Trail.result (emit_of_none bare.emitter (p.sift bundle).1 t)
          rw [result_run_eq_ok_iff.2
            ⟨parsed, parsed, bundle, bundle, none, ⟨read, fine, reshaped, ran, reworked⟩,
              emitted, rfl⟩]
          simp only [Except.map, Except.mapError, sift_of_filters bare.filters]

/-- A run is a plain composition. It succeeds if and only if its source is read, nothing is wrong,
the transforms of schemas, the lineup and the transforms of bundles succeed one after the other, and
the emitter, if there is one and it is not to run dry, can make its directory. A transform that fails
ends the run with its own name and message. -/
theorem run_composes (p : Pipeline) (now : Instant) (source : Source) (path : Option String)
    (options : GenerationOptions) (t : FileTree) :
    let trail := p.run now source path options t
    ((∃ made, trail.result = .ok made) ↔
      (∃ parsed schema generated finished,
        p.Composed now source path options parsed schema generated finished) ∧
      ∀ e, p.emitter = some e →
        e.dryRun = true ∨ (t.makeDirectories e.directory).2 = .ok ()) ∧
    (∀ made, trail.result = .ok made → ∃ parsed generated finished,
      p.Composed now source path options parsed made.schema generated finished ∧
      p.Settled t finished trail made) ∧
    (∀ parsed before f message,
      (p.lineup.parse source path).result = .ok parsed →
      (p.findings source parsed).errors = [] →
      FailsAt p.schemaTransforms parsed before f message →
      trail.result = .error (.transform f.name message) ∧
        trail.work .transform = (before ++ [f]).map (.schemaTransform ·.name)) ∧
    (∀ parsed schema generated before f message,
      (p.lineup.parse source path).result = .ok parsed →
      (p.findings source parsed).errors = [] →
      applyAll p.schemaTransforms parsed = .ok schema →
      (p.lineup.generateFrom now schema options).result = .ok generated →
      FailsAt p.bundleTransforms generated before f message →
      trail.result = .error (.transform f.name message) ∧
        trail.work .postProcess = (before ++ [f]).map (.bundleTransform ·.name)) ∧
    (p.Bare source path →
      trail.result.map (·.bundle) =
        (p.lineup.generate now source path options).result.mapError .run) := by
  refine ⟨exists_result_eq_ok_iff, fun made => settled_of_result, ?_, ?_, Bare.result⟩
  · intro parsed before f message read fine breaks
    exact run_of_schemaTransform_failsAt read fine breaks
  · intro parsed schema generated before f message read fine reshaped ran breaks
    exact run_of_bundleTransform_failsAt read fine reshaped ran breaks

/-- A dry run succeeds where its directory cannot be made: a file is in its way. -/
theorem dry_run_without_directory :
    let p : Pipeline := {
      lineup := {
        parser := some (Stub.new "json").parser
        generators := [(Stub.new "rest").generator] }
      emitter := some { directory := "o/x", dryRun := true } }
    let t : FileTree := ⟨[(["o"], .file [] FileTree.fileMode)]⟩
    ¬((∃ made, (p.run ⟨0, 0⟩ (.text "") none {} t).result = .ok made) ↔
      (∃ parsed schema generated finished,
        p.Composed ⟨0, 0⟩ (.text "") none {} parsed schema generated finished) ∧
      ∀ e, p.emitter = some e → (t.makeDirectories e.directory).2 = .ok ()) := by
  intro p t claimed
  have made : (t.makeDirectories "o/x").2 = .ok () := (claimed.1 ⟨_, rfl⟩).2 _ rfl
  have blocked : (t.makeDirectories "o/x").2 = .error .notDirectory := by
    rfl
  cases made.symm.trans blocked

end Pipeline

end Scaffold
