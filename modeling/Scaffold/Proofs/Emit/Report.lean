import Mathlib.Data.List.Forall2
import Scaffold.Proofs.Emit.Runs

/-!
What the report of an emission says of the tree it leaves.
-/

namespace Scaffold

open Text.Utf8 (Bytes)

namespace WriteReport

variable {dry : Bool} {outcomes : List Outcome} {target : String}

theorem mem_written_iff : target ∈ (ofOutcomes dry outcomes).written ↔ .written target ∈ outcomes := by
  simp only [ofOutcomes, List.mem_filterMap]
  constructor
  · rintro ⟨outcome, member, told⟩
    cases outcome <;> cases told
    exact member
  · exact fun member => ⟨_, member, rfl⟩

theorem mem_skipped_iff : target ∈ (ofOutcomes dry outcomes).skipped ↔ .kept target ∈ outcomes := by
  simp only [ofOutcomes, List.mem_filterMap]
  constructor
  · rintro ⟨outcome, member, told⟩
    cases outcome <;> cases told
    exact member
  · exact fun member => ⟨_, member, rfl⟩

theorem length_ofOutcomes (dry : Bool) (outcomes : List Outcome) :
    (ofOutcomes dry outcomes).written.length + (ofOutcomes dry outcomes).skipped.length +
      (ofOutcomes dry outcomes).failed.length = outcomes.length := by
  simp only [ofOutcomes]
  induction outcomes with
  | nil => rfl
  | cons outcome outcomes ih =>
      rw [List.length_cons, ← ih]
      cases outcome with
      | written target =>
          rw [List.filterMap_cons_some (by rfl), List.filterMap_cons_none (by rfl),
            List.filterMap_cons_none (by rfl), List.length_cons]
          omega
      | kept target =>
          rw [List.filterMap_cons_none (by rfl), List.filterMap_cons_some (by rfl),
            List.filterMap_cons_none (by rfl), List.length_cons]
          omega
      | failed path fault =>
          rw [List.filterMap_cons_none (by rfl), List.filterMap_cons_none (by rfl),
            List.filterMap_cons_some (by rfl), List.length_cons]
          omega

end WriteReport

namespace Emitter

/-- Whether a target was last written by a file with some content. -/
def LastWritten (files : List OutputFile) (outcomes : List Outcome) (target : String)
    (content : Bytes) : Prop :=
  ∃ before file after, files.zip outcomes = before ++ (file, .written target) :: after ∧
    (∀ later ∈ after, later.2 ≠ .written target) ∧ file.bytes = .ok content

theorem LastWritten.cons {files : List OutputFile} {outcomes : List Outcome} {target : String}
    {content : Bytes} (last : LastWritten files outcomes target content) (file : OutputFile)
    (outcome : Outcome) : LastWritten (file :: files) (outcome :: outcomes) target content := by
  obtain ⟨before, writer, after, split, rest⟩ := last
  refine ⟨(file, outcome) :: before, writer, after, ?_, rest⟩
  rw [List.zip_cons_cons, split, List.cons_append]

variable {e : Emitter} {t : FileTree} {files : List OutputFile} {target : String}

theorem LastWritten.exists_file {outcomes : List Outcome} {content : Bytes}
    (last : LastWritten files outcomes target content)
    (accounts : List.Forall₂ (fun file outcome => outcome.Accounts e.directory file) files outcomes) :
    ∃ file ∈ files, Path.resolve e.directory file.path = some target ∧
      file.bytes = .ok content := by
  obtain ⟨before, file, after, split, -, decoded⟩ := last
  have listed : (file, .written target) ∈ files.zip outcomes := by simp [split]
  exact ⟨file, (List.of_mem_zip listed).1, (List.forall₂_iff_zip.1 accounts).2 listed, decoded⟩

theorem read_of_written (normal : Path.IsNormal e.directory) (real : e.dryRun = false)
    (member : .written target ∈ (e.writeFiles t files).2) :
    ∃ content, LastWritten files (e.writeFiles t files).2 target content ∧
      (e.writeFiles t files).1.read target = .ok content := by
  induction files generalizing t with
  | nil => cases member
  | cons file files ih =>
      rw [writeFiles_cons] at member ⊢
      -- the last file to be written there is among the others, if one of them is
      by_cases again : .written target ∈ (e.writeFiles (e.writeFile t file).1 files).2
      · obtain ⟨content, last, held⟩ := ih again
        exact ⟨content, last.cons file _, held⟩
      · have handles := e.handles_writeFile t file
        have written : (e.writeFile t file).2 = .written target :=
          ((List.mem_cons.1 member).resolve_right again).symm
        have resolved := handles.resolve_of_written written
        obtain ⟨content, decoded⟩ := handles.decoded_of_written written
        have held : (e.writeFile t file).1.read target = .ok content := by
          rcases handles.settles normal real resolved decoded with
            ⟨-, held⟩ | ⟨kept, -⟩ | ⟨⟨fault, failed⟩, -⟩
          · exact held
          · cases written.symm.trans kept
          · cases written.symm.trans failed
        refine ⟨content, ⟨[], file,
          files.zip (e.writeFiles (e.writeFile t file).1 files).2, ?_, ?_, decoded⟩, ?_⟩
        · rw [List.zip_cons_cons, written, List.nil_append]
        · rintro ⟨later, outcome⟩ listed rfl
          exact again (List.of_mem_zip listed).2
        · exact read_writeFiles normal (Path.liesBelow_of_resolve normal resolved) again held

/-- The report of an emission in earnest is true and complete. It tells of each file once, in order.
What it lists as written holds what the last file said that was written there. What it lists as skipped,
and not as written too, holds what it held before. -/
theorem write_reports (e : Emitter) (t : FileTree) (bundle : Bundle)
    (normal : Path.IsNormal e.directory) (real : e.dryRun = false)
    (ready : (t.makeDirectories e.directory).2 = .ok ()) :
    let after := (e.write t bundle).1
    ∃ report outcomes, (e.write t bundle).2 = .ok report ∧ report = .ofOutcomes false outcomes ∧
      List.Forall₂ (fun file outcome => outcome.Accounts e.directory file) bundle.files outcomes ∧
      report.written.length + report.skipped.length + report.failed.length =
        bundle.files.length ∧
      (∀ target ∈ report.written, ∃ content,
        LastWritten bundle.files outcomes target content ∧ after.read target = .ok content) ∧
      (∀ target ∈ report.skipped, target ∉ report.written → ∀ content,
        t.read target = .ok content → after.read target = .ok content) := by
  have prepared := FileTree.alters_makeDirectories normal t
  have accounts := accounts_writeFiles e (t.makeDirectories e.directory).1 bundle.files
  rw [write_of_ready real ready]
  refine ⟨_, _, rfl, rfl, accounts, ?_, ?_, ?_⟩
  · rw [WriteReport.length_ofOutcomes, accounts.length_eq]
  · exact fun target member => read_of_written normal real (WriteReport.mem_written_iff.1 member)
  · intro target skipped unwritten content held
    rw [WriteReport.mem_skipped_iff] at skipped
    rw [WriteReport.mem_written_iff] at unwritten
    obtain ⟨file, -, resolved⟩ := exists_of_mem_outcomes skipped
    have below := Path.liesBelow_of_resolve normal resolved
    exact read_writeFiles normal below unwritten (prepared.read_eq below.normal id held)

/-- Two files share a target, one fails below it, and one is kept out. -/
theorem write_reports_shared :
    let e : Emitter := { directory := "o", policy := .never }
    let t : FileTree := ⟨[(["o"], .directory), (["o", "kept"], .file [111] 0o644)]⟩
    let bundle : Bundle := { files := [
      { path := "a", content := "1" },
      { path := "b/../a", content := "2", overwrite := some true },
      { path := "a/b", content := "3" },
      { path := "kept", content := "4" }] }
    Path.IsNormal e.directory ∧ e.dryRun = false ∧ (t.makeDirectories e.directory).2 = .ok () ∧
      ∃ report outcomes, (e.write t bundle).2 = .ok report ∧
        report.written = ["o/a", "o/a"] ∧ report.skipped = ["o/kept"] ∧
        report.failed = [("a/b", .file .notDirectory)] ∧
        (∃ content, LastWritten bundle.files outcomes "o/a" content ∧
          (e.write t bundle).1.read "o/a" = .ok content) ∧
        (e.write t bundle).1.read "o/kept" = .ok [111] := by
  intro e t bundle
  have normal : Path.IsNormal e.directory := by decide
  have ready : (t.makeDirectories e.directory).2 = .ok () := by decide
  obtain ⟨report, outcomes, ended, -, -, -, last, still⟩ :=
    write_reports e t bundle normal rfl ready
  have found : (e.write t bundle).2 =
      .ok ⟨["o/a", "o/a"], ["o/kept"], [("a/b", .file .notDirectory)], false⟩ := by
    decide
  cases ended.symm.trans found
  exact ⟨normal, rfl, ready, _, outcomes, ended, rfl, rfl, rfl,
    last _ (by simp), still _ (by simp) (by simp) _ (by decide)⟩

end Emitter

end Scaffold
