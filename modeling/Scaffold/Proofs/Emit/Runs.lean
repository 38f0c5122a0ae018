import Scaffold.Proofs.Emit.Handling

/-!
What becomes of files one after the other, and of a whole bundle.
-/

namespace Scaffold

namespace Outcome

/-- Whether an outcome is one of a file: it names the target of the file, or the path of a file that
failed. -/
def Accounts (directory : String) (file : OutputFile) : Outcome → Prop
  | .written target => Path.resolve directory file.path = some target
  | .kept target => Path.resolve directory file.path = some target
  | .failed path _ => path = file.path

end Outcome

namespace Emitter

variable {e : Emitter} {t u : FileTree} {file : OutputFile} {files : List OutputFile}
  {bundle : Bundle}

def targets (e : Emitter) (files : List OutputFile) : List String :=
  files.filterMap fun file => Path.resolve e.directory file.path

theorem mem_targets_iff {target : String} :
    target ∈ e.targets files ↔ ∃ file ∈ files, Path.resolve e.directory file.path = some target :=
  List.mem_filterMap

theorem targets_cons {target : String}
    (resolved : Path.resolve e.directory file.path = some target) :
    e.targets (file :: files) = target :: e.targets files :=
  List.filterMap_cons_some resolved

theorem mem_targets_of_tail {target : String} (member : target ∈ e.targets files) :
    target ∈ e.targets (file :: files) :=
  ((List.sublist_cons_self file files).filterMap _).subset member

theorem Handles.accounts {outcome : Outcome} (handles : e.Handles t file u outcome) :
    outcome.Accounts e.directory file := by
  cases handles <;> first | rfl | assumption

theorem writeFiles_cons (e : Emitter) (t : FileTree) (file : OutputFile)
    (files : List OutputFile) :
    e.writeFiles t (file :: files) =
      ((e.writeFiles (e.writeFile t file).1 files).1,
        (e.writeFile t file).2 :: (e.writeFiles (e.writeFile t file).1 files).2) :=
  rfl

theorem accounts_writeFiles (e : Emitter) (t : FileTree) (files : List OutputFile) :
    List.Forall₂ (fun file outcome => outcome.Accounts e.directory file) files
      (e.writeFiles t files).2 := by
  induction files generalizing t with
  | nil => exact .nil
  | cons file files ih => exact .cons (e.handles_writeFile t file).accounts (ih _)

theorem writeFiles_of_dryRun (dry : e.dryRun = true) (t : FileTree) (files : List OutputFile) :
    (e.writeFiles t files).1 = t := by
  induction files generalizing t with
  | nil => rfl
  | cons file files ih =>
      rw [writeFiles_cons, ih]
      exact (e.handles_writeFile t file).tree_of_dryRun dry

/-- Files are written where they are reported to be. Directories are made on the way to targets of
which nothing is settled. -/
theorem alters_writeFiles (normal : Path.IsNormal e.directory) (t : FileTree)
    (files : List OutputFile) :
    t.Alters
      (fun l => ∃ file ∈ files, ∃ target, Path.resolve e.directory file.path = some target ∧
        l <+: Path.location target ∧ l ≠ Path.location target ∧ ¬e.Settled t file)
      (fun l => ∃ target, .written target ∈ (e.writeFiles t files).2 ∧
        Path.location target = l)
      (e.writeFiles t files).1 := by
  induction files generalizing t with
  | nil => exact .refl
  | cons file files ih =>
      have first := (e.handles_writeFile t file).alters normal
      rw [writeFiles_cons]
      refine (first.mono ?_ ?_).trans ((ih _).mono ?_ ?_)
      · rintro l ⟨target, around⟩
        exact ⟨file, List.mem_cons_self, target, around⟩
      · rintro l ⟨target, written, located⟩
        exact ⟨target, written ▸ List.mem_cons_self, located⟩
      · rintro l ⟨file, member, target, resolved, around, apart, unsettled⟩
        exact ⟨file, List.mem_cons_of_mem _ member, target, resolved, around, apart,
          fun settled => unsettled (settled.within normal first.within)⟩
      · rintro l ⟨target, member, located⟩
        exact ⟨target, List.mem_cons_of_mem _ member, located⟩

theorem settled_writeFiles (normal : Path.IsNormal e.directory) (real : e.dryRun = false)
    (t : FileTree) (files : List OutputFile) :
    ∀ file ∈ files, e.Settled (e.writeFiles t files).1 file := by
  induction files generalizing t with
  | nil => exact List.forall_mem_nil _
  | cons file files ih =>
      refine List.forall_mem_cons.2 ⟨?_, ih _⟩
      exact ((e.handles_writeFile t file).settled normal real).within normal
        (alters_writeFiles normal _ files).within

theorem exists_of_mem_outcomes {outcome : Outcome} (member : outcome ∈ (e.writeFiles t files).2) :
    ∃ file ∈ files, outcome.Accounts e.directory file := by
  induction files generalizing t with
  | nil => cases member
  | cons file files ih =>
      rw [writeFiles_cons] at member
      rcases List.mem_cons.1 member with rfl | member
      · exact ⟨file, List.mem_cons_self, (e.handles_writeFile t file).accounts⟩
      · obtain ⟨file, member, accounts⟩ := ih member
        exact ⟨file, List.mem_cons_of_mem _ member, accounts⟩

theorem liesBelow_of_written (normal : Path.IsNormal e.directory) {target : String}
    (member : .written target ∈ (e.writeFiles t files).2) :
    Path.LiesBelow e.directory target := by
  obtain ⟨file, -, resolved⟩ := exists_of_mem_outcomes member
  exact Path.liesBelow_of_resolve normal resolved

theorem read_writeFiles {target : String} {content : Text.Utf8.Bytes}
    (normal : Path.IsNormal e.directory) (below : Path.LiesBelow e.directory target)
    (unwritten : .written target ∉ (e.writeFiles t files).2)
    (held : t.read target = .ok content) :
    (e.writeFiles t files).1.read target = .ok content := by
  refine (alters_writeFiles normal t files).read_eq below.normal ?_ held
  rintro ⟨other, member, located⟩
  rw [(liesBelow_of_written normal member).ext below located] at member
  exact unwritten member

section Write

theorem write_of_dryRun (dry : e.dryRun = true) :
    e.write t bundle = (t, .ok (.ofOutcomes true (e.writeFiles t bundle.files).2)) := by
  unfold write prepare
  rw [if_pos dry]
  simp only [writeFiles_of_dryRun dry, dry]

theorem write_of_ready (real : e.dryRun = false)
    (ready : (t.makeDirectories e.directory).2 = .ok ()) :
    e.write t bundle =
      ((e.writeFiles (t.makeDirectories e.directory).1 bundle.files).1,
        .ok (.ofOutcomes false
          (e.writeFiles (t.makeDirectories e.directory).1 bundle.files).2)) := by
  unfold write prepare
  rw [if_neg (by simp [real])]
  simp only [ready, Except.mapError, real]

theorem write_of_unready {fault : FileError} (real : e.dryRun = false)
    (unready : (t.makeDirectories e.directory).2 = .error fault) :
    e.write t bundle =
      ((t.makeDirectories e.directory).1, .error ⟨e.directory, fault⟩) := by
  unfold write prepare
  rw [if_neg (by simp [real])]
  simp only [unready, Except.mapError]

end Write

end Emitter

end Scaffold
