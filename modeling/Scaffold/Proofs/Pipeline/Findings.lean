import Scaffold.Plugin.Stub
import Scaffold.Proofs.Pipeline.Result
import Scaffold.Proofs.Pipeline.Stages
import Scaffold.Proofs.Schema.Warnings

/-!
What becomes of findings along a pipeline's run: the errors that end it after the check, and the
warnings that its result carries.
-/

namespace Scaffold

namespace Lineup

variable (l : Lineup)

@[simp] theorem errors_promote (r : Report) : (promote r).errors = r.errors ++ r.warnings :=
  Report.errors_foldl_addError r.warnings _

@[simp] theorem warnings_promote (r : Report) : (promote r).warnings = [] :=
  Report.warnings_foldl_addError r.warnings _

variable {l} {parser : Parser} (present : l.parser = some parser) (source : Source)

include present

theorem errors_checkSource :
    (l.checkSource source).errors =
      (parser.check source).errors ++ if l.strict then (parser.check source).warnings else [] := by
  unfold checkSource
  rw [present]
  cases l.strict <;> simp

theorem warnings_checkSource :
    (l.checkSource source).warnings =
      if l.strict then [] else (parser.check source).warnings := by
  unfold checkSource
  rw [present]
  cases l.strict <;> simp

theorem errors_check :
    l.check.errors = if l.generators = [] then ["no generator registered"] else [] := by
  simp [check, present]

end Lineup

namespace Pipeline

variable {p : Pipeline} {now : Instant} {source : Source} {path : Option String}
  {options : GenerationOptions} {t : FileTree} {parser : Parser} {schema : Schema}

def errorsOf (p : Pipeline) (report : Report) (schema : Schema) : List String :=
  p.lineup.check.errors ++ report.errors ++ (if p.lineup.strict then report.warnings else []) ++
    schema.check.errors

/-- The warnings of a run that was told of `report` by its parser and has read `schema`. -/
def warningsOf (p : Pipeline) (report : Report) (schema : Schema) (written : Option WriteReport) :
    List String :=
  p.warnings ++ p.lineup.check.warnings ++ (if p.lineup.strict then [] else report.warnings) ++
    schema.check.warnings ++
    (written.elim [] (·.failed)).map fun (path, fault) =>
      "failed to write `" ++ path ++ "`: " ++ fault.message

theorem errors_findings (present : p.lineup.parser = some parser) :
    (p.findings source schema).errors = p.errorsOf (parser.check source) schema := by
  simp only [findings, errorsOf, Report.errors_merge, Lineup.errors_checkSource present,
    List.append_assoc]

theorem warnings_findings (present : p.lineup.parser = some parser) :
    (p.findings source schema).warnings =
      p.lineup.check.warnings ++ (if p.lineup.strict then [] else (parser.check source).warnings) ++
        schema.check.warnings := by
  simp only [findings, Report.warnings_merge, Lineup.warnings_checkSource present]

theorem errorsOf_eq_nil_iff (present : p.lineup.parser = some parser) {report : Report} :
    p.errorsOf report schema = [] ↔
      p.lineup.generators ≠ [] ∧ report.errors = [] ∧
        (p.lineup.strict → report.warnings = []) ∧ schema.version = Schema.currentVersion := by
  simp only [errorsOf, List.append_eq_nil_iff, Lineup.errors_check present,
    Schema.errors_check_eq_nil_iff, and_assoc]
  cases p.lineup.strict <;> simp

theorem parser_of_parse (read : (p.lineup.parse source path).result = .ok schema) :
    ∃ parser, p.lineup.parser = some parser := by
  unfold Lineup.parse at read
  cases present : p.lineup.parser with
  | none =>
      rw [present] at read
      cases read
  | some parser => exact ⟨parser, rfl⟩

theorem run_of_errors (read : (p.lineup.parse source path).result = .ok schema)
    (wrong : (p.findings source schema).errors ≠ []) :
    (p.run now source path options t).result =
        .error (.validation (p.findings source schema).errors) ∧
      (p.run now source path options t).completed = [.parse] := by
  have works := p.lineup.worksAt_parse source path
  have ended : (Job.ofRun (p.lineup.parse source path) t).result = .ok schema :=
    result_ofRun_eq_ok_iff.2 read
  have failed : (p.validate source schema t).result =
      .error (.validation (p.findings source schema).errors) := validated_of_errors wrong
  unfold run
  rw [Job.stage_andThen_of_ok works (by decide) ended,
    Job.andThen_of_error ((Job.result_stage _ _ _ _).trans failed), Job.stage_of_error failed]
  exact ⟨rfl, rfl⟩

variable (now options t) in
theorem completed_of_valid (read : (p.lineup.parse source path).result = .ok schema)
    (fine : (p.findings source schema).errors = []) :
    ∃ later, (p.run now source path options t).completed = .parse :: .validate :: later := by
  have works := p.lineup.worksAt_parse source path
  have ended : (Job.ofRun (p.lineup.parse source path) t).result = .ok schema :=
    result_ofRun_eq_ok_iff.2 read
  have passed : (p.validate source schema t).result = .ok (p.findings source schema).warnings :=
    result_validate_eq_ok_iff.2 ⟨fine, rfl⟩
  unfold run
  rw [Job.stage_andThen_of_ok works (by decide) ended,
    Job.stage_andThen_of_ok (p.worksAt_validate source schema) (by decide) passed]
  exact ⟨_, rfl⟩

theorem completed_of_validation {errors : List String}
    (failed : (p.run now source path options t).result = .error (.validation errors)) :
    (p.run now source path options t).completed = [.parse] := by
  cases p.follows_run now source path options t with
  | completed ended => cases ended.symm.trans failed
  | @failed before after s e done work split broke fails stop =>
      cases broke.symm.trans failed
      cases s with
      | validate =>
          have all :
              Stage.all = [.parse] ++ .validate :: [.transform, .generate, .postProcess, .write] :=
            rfl
          rw [all, List.append_cons_inj_of_notMem (by decide) (by decide)] at split
          rw [stop, split.1]
      | _ => cases fails

theorem errors_of_validation {errors : List String}
    (read : (p.lineup.parse source path).result = .ok schema)
    (failed : (p.run now source path options t).result = .error (.validation errors)) :
    (p.findings source schema).errors ≠ [] ∧ errors = (p.findings source schema).errors := by
  have wrong : (p.findings source schema).errors ≠ [] := by
    intro fine
    obtain ⟨later, past⟩ := completed_of_valid now options t read fine
    cases past.symm.trans (completed_of_validation failed)
  refine ⟨wrong, ?_⟩
  cases failed.symm.trans (run_of_errors read wrong).1
  rfl

theorem warnings_of_result {made : Production} (present : p.lineup.parser = some parser)
    (read : (p.lineup.parse source path).result = .ok schema)
    (ended : (p.run now source path options t).result = .ok made) :
    made.warnings = p.warningsOf (parser.check source) schema made.report := by
  obtain ⟨parsed, reshaped, generated, finished, report, composed, -, rfl⟩ :=
    result_run_eq_ok_iff.1 ended
  cases composed.parse.symm.trans read
  simp only [warningsOf, warnings_findings present, failureWarnings, List.append_assoc]

variable (p now source path options t) in
/-- The check of a schema that was read fails if and only if there is no generator, the parser finds
errors, or warnings that are to count as errors, or the version is foreign. The run then returns all
errors, each producer's in its turn. A run that succeeds carries the warnings of all producers, and
so does the one after it: nothing is left over from the run before. -/
theorem run_accounts (read : (p.lineup.parse source path).result = .ok schema) :
    ∃ parser, p.lineup.parser = some parser ∧
      let report := parser.check source
      let trail := p.run now source path options t
      ((∃ errors, trail.result = .error (.validation errors)) ↔
        p.lineup.generators = [] ∨ report.errors ≠ [] ∨
          (p.lineup.strict ∧ report.warnings ≠ []) ∨ schema.version ≠ "1.0") ∧
      (∀ errors, trail.result = .error (.validation errors) →
        errors = p.errorsOf report schema ∧ trail.completed = [.parse]) ∧
      (∀ made, trail.result = .ok made →
        made.warnings = p.warningsOf report schema made.report) ∧
      ∀ later another whence settings reread made,
        (p.lineup.parse another whence).result = .ok reread →
        (p.run later another whence settings trail.tree).result = .ok made →
        made.warnings = p.warningsOf (parser.check another) reread made.report := by
  obtain ⟨parser, present⟩ := parser_of_parse read
  refine ⟨parser, present, ?_⟩
  intro report trail
  have wrong_iff : (p.findings source schema).errors ≠ [] ↔
      p.lineup.generators = [] ∨ report.errors ≠ [] ∨
        (p.lineup.strict ∧ report.warnings ≠ []) ∨ schema.version ≠ "1.0" := by
    rw [errors_findings present, Ne, errorsOf_eq_nil_iff present]
    simp only [not_and_or, not_not, Classical.not_imp, Schema.currentVersion, report, Ne]
  refine ⟨?_, ?_, fun made => warnings_of_result present read, ?_⟩
  · rw [← wrong_iff]
    constructor
    · rintro ⟨errors, failed⟩
      exact (errors_of_validation read failed).1
    · intro wrong
      exact ⟨_, (run_of_errors read wrong).1⟩
  · intro errors failed
    refine ⟨?_, completed_of_validation failed⟩
    rw [(errors_of_validation read failed).2, errors_findings present]
  · intro later another whence settings reread made readAgain
    exact warnings_of_result present readAgain

/-- With nothing to generate, a warning to promote and a foreign version, three producers speak in
turn. The verdict that came along with the parser's report does not count. -/
theorem run_accounts_strict :
    let parser : Parser := {
      (Stub.new "json").parser with
      parse := fun _ _ =>
        .ok { Schema.new { name := "pets", source := "json" } [] [] with version := "0.9" }
      check := fun _ => ⟨true, [], ["no paths"]⟩ }
    let p : Pipeline := { lineup := { parser := some parser, strict := true } }
    ∃ errors, (p.run ⟨0, 0⟩ (.text "") none {} .empty).result = .error (.validation errors) ∧
      errors = ["no generator registered", "no paths",
        "unsupported IR version `0.9` (expected `1.0`)"] := by
  intro parser p
  obtain ⟨_, present, fails, accounts, -⟩ :=
    p.run_accounts ⟨0, 0⟩ (.text "") none {} .empty rfl
  cases present
  obtain ⟨errors, failed⟩ := fails.2 (.inl rfl)
  exact ⟨errors, failed, (accounts errors failed).1⟩

end Pipeline

end Scaffold
