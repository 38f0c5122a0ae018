import Scaffold.Proofs.Emit.Report
import Scaffold.Proofs.FileTree.Walks
import Scaffold.Proofs.Merge.Bundles
import Scaffold.Proofs.Path.Spellings

/-!
Files that get in each other's way. Merging tells files apart by the texts of their paths, an emitter
by the names that these leave: two files of one bundle have one target if their paths are spellings of
one path, and only then. A file without such a double is not written over by another one.
-/

namespace Scaffold

open Scaffold.Path (names? resolve split)
open Text.Utf8 (Bytes)

namespace Emitter

variable {e : Emitter} {t u : FileTree} {file : OutputFile} {files before after : List OutputFile}
  {outcome : Outcome} {target other path : String} {location : Location} {entry : Entry}

theorem Handles.alters_anywhere (handles : e.Handles t file u outcome) :
    t.Alters (fun _ => True)
      (fun l => ∃ target, resolve e.directory file.path = some target ∧
        u.walk (split target) = .ok l) u := by
  have storing {target : String} {content : Bytes} {result : Except FileError Unit}
      (resolved : resolve e.directory file.path = some target)
      (stored : t.store target content file.mode = (u, result)) :
      t.Alters (fun _ => True)
        (fun l => ∃ target, resolve e.directory file.path = some target ∧
          u.walk (split target) = .ok l) u := by
    have alters := FileTree.store_alters t target content file.mode
    rw [stored] at alters
    exact alters.mono (fun _ => id) fun l leads => ⟨target, resolved, leads⟩
  cases handles with
  | escaping => exact .refl
  | garbled => exact .refl
  | refused => exact .refl
  | kept => exact .refl
  | foreseen => exact .refl
  | stored resolved _ _ _ stored => exact storing resolved stored
  | thwarted resolved _ _ _ stored => exact storing resolved stored

theorem writeFiles_alters (e : Emitter) (t : FileTree) (files : List OutputFile) :
    t.Alters (fun _ => True)
      (fun l => ∃ file ∈ files, ∃ target, resolve e.directory file.path = some target ∧
        (e.writeFiles t files).1.walk (split target) = .ok l)
      (e.writeFiles t files).1 := by
  induction files generalizing t with
  | nil => exact .refl
  | cons file files ih =>
      have first := (e.handles_writeFile t file).alters_anywhere
      have rest := ih (e.writeFile t file).1
      rw [writeFiles_cons]
      refine (first.mono (fun _ => id) ?_).trans (rest.mono (fun _ => id) ?_)
      · rintro l ⟨target, resolved, leads⟩
        exact ⟨file, List.mem_cons_self, target, resolved,
          FileTree.walk_of_within rest.within leads⟩
      · rintro l ⟨file, member, target, resolved, leads⟩
        exact ⟨file, List.mem_cons_of_mem _ member, target, resolved, leads⟩

theorem writeFiles_append (e : Emitter) (t : FileTree) (before after : List OutputFile) :
    e.writeFiles t (before ++ after) =
      ((e.writeFiles (e.writeFiles t before).1 after).1,
        (e.writeFiles t before).2 ++ (e.writeFiles (e.writeFiles t before).1 after).2) := by
  induction before generalizing t with
  | nil => rfl
  | cons file before ih =>
      rw [List.cons_append, writeFiles_cons, ih, writeFiles_cons]
      rfl

/-- The targets of different paths lead to different locations. -/
theorem ne_of_names?_ne {directory : String} {here there : Location}
    (apart : names? path ≠ names? other) {first second : String}
    (resolved : resolve directory path = some first)
    (resolved' : resolve directory other = some second)
    (leads : t.walk (split first) = .ok here) (leads' : t.walk (split second) = .ok there) :
    here ≠ there := by
  obtain ⟨names, left, named, written, -⟩ := Path.split_of_resolve resolved
  obtain ⟨names', left', named', written', -⟩ := Path.split_of_resolve resolved'
  rw [written] at leads
  rw [written'] at leads'
  obtain ⟨start, walked, rfl⟩ := FileTree.walk_append_names named leads
  obtain ⟨start', walked', rfl⟩ := FileTree.walk_append_names named' leads'
  cases walked.symm.trans walked'
  rw [left, left'] at apart
  exact fun same => apart (congrArg some (List.append_cancel_left same))

section Apart

variable (resolved : resolve e.directory path = some target)
  (apart : ∀ file ∈ files, names? file.path ≠ names? path)
include resolved apart

theorem not_written_of_apart
    (leads : (e.writeFiles t files).1.walk (split target) = .ok location) :
    ¬∃ file ∈ files, ∃ target, resolve e.directory file.path = some target ∧
      (e.writeFiles t files).1.walk (split target) = .ok location := by
  rintro ⟨file, member, other, resolved', leads'⟩
  exact ne_of_names?_ne (apart file member) resolved' resolved leads' leads rfl

/-- What a target leads to stays while files are written that have other targets. -/
theorem stat_writeFiles_of_apart (found : t.stat target = .ok (location, entry)) :
    (e.writeFiles t files).1.stat target = .ok (location, entry) := by
  have alters := e.writeFiles_alters t files
  obtain ⟨accepted, leads, present⟩ := FileTree.stat_eq_ok_iff.1 found
  have leads := FileTree.walk_of_within alters.within leads
  exact FileTree.stat_eq_ok_iff.2 ⟨accepted, leads,
    alters.get?_of_some present (not_written_of_apart resolved apart leads)⟩

/-- Of what a target leads to afterwards, only a directory can be new. -/
theorem directory_or_get?_of_apart
    (found : (e.writeFiles t files).1.stat target = .ok (location, entry)) :
    entry = .directory ∨ t.get? location = some entry := by
  obtain ⟨-, leads, present⟩ := FileTree.stat_eq_ok_iff.1 found
  cases entry with
  | directory => exact .inl rfl
  | file content mode =>
      exact .inr ((e.writeFiles_alters t files).file_of_not_written
        (not_written_of_apart resolved apart leads) present)

theorem not_mem_outcomes_of_apart (told : outcome = .written target ∨ outcome = .kept target) :
    outcome ∉ (e.writeFiles t files).2 := by
  intro member
  obtain ⟨file, listed, accounts⟩ := exists_of_mem_outcomes member
  have resolved' : resolve e.directory file.path = some target := by
    rcases told with rfl | rfl <;> exact accounts
  exact apart file listed ((Path.resolve_eq_iff resolved' resolved).1 rfl)

end Apart

section Middle

variable (resolved : resolve e.directory file.path = some target)
  (later : ∀ other ∈ after, names? other.path ≠ names? file.path)
include resolved later

/-- What the target of a file leads to once the file has been handled, it leads to in the end. -/
theorem stat_writeFiles_of_writeFile
    (found : (e.writeFile (e.writeFiles t before).1 file).1.stat target = .ok (location, entry)) :
    (e.writeFiles t (before ++ file :: after)).1.stat target = .ok (location, entry) := by
  rw [writeFiles_append, writeFiles_cons]
  exact stat_writeFiles_of_apart resolved later found

variable (earlier : ∀ other ∈ before, names? other.path ≠ names? file.path)
include earlier

/-- Only the file itself can have its target in the report. -/
theorem eq_of_mem_outcomes (told : outcome = .written target ∨ outcome = .kept target)
    (member : outcome ∈ (e.writeFiles t (before ++ file :: after)).2) :
    (e.writeFile (e.writeFiles t before).1 file).2 = outcome := by
  rw [writeFiles_append, writeFiles_cons] at member
  rcases List.mem_append.1 member with early | member
  · exact absurd early (not_mem_outcomes_of_apart resolved earlier told)
  · rcases List.mem_cons.1 member with rfl | late
    · rfl
    · exact absurd late (not_mem_outcomes_of_apart resolved later told)

theorem read_of_written_apart (real : e.dryRun = false)
    (member : .written target ∈ (e.writeFiles t (before ++ file :: after)).2) :
    ∃ content, file.bytes = .ok content ∧
      (e.writeFiles t (before ++ file :: after)).1.read target = .ok content := by
  have written := eq_of_mem_outcomes resolved later earlier (.inl rfl) member
  obtain ⟨content, here, mode, decoded, found⟩ : ∃ content here mode, file.bytes = .ok content ∧
      (e.writeFile (e.writeFiles t before).1 file).1.stat target =
        .ok (here, .file content mode) := by
    have handles := e.handles_writeFile (e.writeFiles t before).1 file
    rw [written] at handles
    generalize (e.writeFile (e.writeFiles t before).1 file).1 = u at handles ⊢
    cases handles with
    | foreseen _ _ _ dry => cases dry.symm.trans real
    | stored _ decoded _ _ stored =>
        obtain ⟨here, mode, found⟩ := FileTree.stat_of_store stored
        exact ⟨_, here, mode, decoded, found⟩
  refine ⟨content, decoded, ?_⟩
  rw [FileTree.read, stat_writeFiles_of_writeFile resolved later found]
  rfl

theorem stat_of_kept_apart
    (member : .kept target ∈ (e.writeFiles t (before ++ file :: after)).2) :
    ∃ location entry,
      (e.writeFiles t (before ++ file :: after)).1.stat target = .ok (location, entry) ∧
        (entry = .directory ∨ t.get? location = some entry) := by
  have kept := eq_of_mem_outcomes resolved later earlier (.inr rfl) member
  obtain ⟨there, same⟩ : (e.writeFiles t before).1.tryExists target = .ok true ∧
      (e.writeFile (e.writeFiles t before).1 file).1 = (e.writeFiles t before).1 := by
    have handles := e.handles_writeFile (e.writeFiles t before).1 file
    rw [kept] at handles
    generalize (e.writeFile (e.writeFiles t before).1 file).1 = u at handles ⊢
    cases handles with
    | kept _ _ keeps => exact ⟨(keeps_eq_ok_true keeps).1, rfl⟩
  obtain ⟨location, entry, found⟩ := FileTree.exists_stat_of_tryExists there
  exact ⟨location, entry,
    stat_writeFiles_of_writeFile resolved later (same.symm ▸ found),
    directory_or_get?_of_apart resolved earlier found⟩

end Middle

theorem exists_of_write_eq_ok {bundle : Bundle} {report : WriteReport}
    (reported : (e.write t bundle).2 = .ok report) :
    ∃ u, t.Alters (fun _ => True) (fun _ => False) u ∧
      (e.write t bundle).1 = (e.writeFiles u bundle.files).1 ∧
      report = .ofOutcomes e.dryRun (e.writeFiles u bundle.files).2 := by
  unfold write at reported ⊢
  cases prepared : e.prepare t with
  | mk u result =>
      have alters : t.Alters (fun _ => True) (fun _ => False) u := by
        unfold prepare at prepared
        split at prepared
        · cases prepared
          exact .refl
        · have made : t.Alters (fun _ => True) (fun _ => False) (t.makeDirectories e.directory).1 :=
            FileTree.makeDirectories_alters t e.directory
          cases prepared
          exact made
      cases result with
      | error fault =>
          rw [prepared] at reported
          cases reported
      | ok =>
          rw [prepared] at reported
          exact ⟨u, alters, rfl, (Except.ok.inj reported).symm⟩

/-- Whether no other path of some files is a spelling of the path of this one. -/
def Alone (files : List OutputFile) (file : OutputFile) : Prop :=
  ∀ other ∈ files, names? other.path = names? file.path → other.path = file.path

instance : Decidable (Alone files file) :=
  inferInstanceAs (Decidable (∀ other ∈ files, names? other.path = _ → other.path = _))

theorem Alone.split {bundle : Bundle} (alone : Alone bundle.files file)
    (distinct : bundle.Distinct) (member : file ∈ bundle.files) :
    ∃ before after, bundle.files = before ++ file :: after ∧
      (∀ other ∈ before, names? other.path ≠ names? file.path) ∧
      ∀ other ∈ after, names? other.path ≠ names? file.path := by
  obtain ⟨before, after, split⟩ := List.append_of_mem member
  have paths := List.pairwise_map.1 distinct.paths
  unfold Alone at alone
  rw [split] at paths alone
  obtain ⟨-, rest, across⟩ := List.pairwise_append.1 paths
  refine ⟨before, after, split, ?_, ?_⟩
  · intro other early same
    exact across other early file List.mem_cons_self (alone other (by simp [early]) same)
  · intro other late same
    exact (List.pairwise_cons.1 rest).1 other late (alone other (by simp [late]) same).symm

/-- Files of a merge without collisions have different paths. Below any directory two of them share
their target exactly if their paths are spellings of one, so that paths in normal form keep them
apart. A file whose path has no other spelling is not written over by another file of the emission,
nor kept out by one: what it is kept for is a directory, or the file that was there before. -/
theorem write_apart {bundles : List Bundle} {merged : Bundle}
    (accepted : Bundle.mergeAll .error bundles = .ok merged) :
    (merged.files.Pairwise fun f g => f.path ≠ g.path ∧ ∀ directory x y,
      resolve directory f.path = some x → resolve directory g.path = some y →
        (x = y ↔ names? f.path = names? g.path) ∧
        (Path.IsNormal f.path → Path.IsNormal g.path → x ≠ y)) ∧
    ∀ (e : Emitter) (t : FileTree) (report : WriteReport), (e.write t merged).2 = .ok report →
      ∀ file ∈ merged.files, Alone merged.files file →
      ∀ target, resolve e.directory file.path = some target →
        (target ∈ report.written → e.dryRun = false → ∃ content, file.bytes = .ok content ∧
          (e.write t merged).1.read target = .ok content) ∧
        (target ∈ report.skipped → ∃ location entry,
          (e.write t merged).1.stat target = .ok (location, entry) ∧
            (entry = .directory ∨ t.get? location = some entry)) := by
  have distinct := Bundle.distinct_mergeAll accepted
  constructor
  · refine (List.pairwise_map.1 distinct.paths).imp fun {f g} apart => ⟨apart, ?_⟩
    intro directory x y resolved resolved'
    have spellings := Path.resolve_eq_iff resolved resolved'
    refine ⟨spellings, fun normal normal' same => apart ?_⟩
    exact normal.eq_of_names?_eq normal' (Path.not_absolute_of_resolve resolved)
      (Path.not_absolute_of_resolve resolved') (spellings.1 same)
  · intro e t report reported file member alone target resolved
    obtain ⟨before, after, split, earlier, later⟩ := alone.split distinct member
    obtain ⟨u, prepared, emitted, rfl⟩ := exists_of_write_eq_ok reported
    rw [emitted, split, WriteReport.mem_written_iff, WriteReport.mem_skipped_iff]
    constructor
    · exact fun written real => read_of_written_apart resolved later earlier real written
    · intro skipped
      obtain ⟨location, entry, found, old⟩ := stat_of_kept_apart resolved later earlier skipped
      refine ⟨location, entry, found, ?_⟩
      cases entry with
      | directory => exact .inl rfl
      | file content mode =>
          exact .inr (prepared.file_of_not_written id (old.resolve_left Entry.noConfusion))

/-- Two files share a target; one is alone and written, and one is kept for what was there. -/
theorem write_apart_doubled :
    let bundles : List Bundle := [
      { files := [
        { path := "a.ts", content := "1" },
        { path := "b.ts", content := "2" },
        { path := "c.ts", content := "3", overwrite := some false }] },
      { files := [{ path := "./a.ts", content := "4" }] }]
    let e : Emitter := { directory := "o" }
    let t : FileTree := ⟨[(["o"], .directory), (["o", "c.ts"], .file [111] 0o644)]⟩
    ∃ merged, Bundle.mergeAll .error bundles = .ok merged ∧
      (e.write t merged).2 = .ok ⟨["o/a.ts", "o/b.ts", "o/a.ts"], ["o/c.ts"], [], false⟩ ∧
      (∃ content, OutputFile.bytes { path := "b.ts", content := "2" } = .ok content ∧
        (e.write t merged).1.read "o/b.ts" = .ok content) ∧
      ∃ location entry, (e.write t merged).1.stat "o/c.ts" = .ok (location, entry) ∧
        (entry = .directory ∨ t.get? location = some entry) := by
  intro bundles e t
  let merged : Bundle := { files := bundles.flatMap (·.files) }
  have accepted : Bundle.mergeAll .error bundles = .ok merged := rfl
  have reported : (e.write t merged).2 =
      .ok ⟨["o/a.ts", "o/b.ts", "o/a.ts"], ["o/c.ts"], [], false⟩ := by decide +kernel
  have disk := (write_apart accepted).2 e t _ reported
  have written := (disk { path := "b.ts", content := "2" } (by decide) (by decide) "o/b.ts"
    (by decide)).1 (by decide) rfl
  have kept := (disk { path := "c.ts", content := "3", overwrite := some false } (by decide)
    (by decide) "o/c.ts" (by decide)).2 (by decide)
  exact ⟨merged, accepted, reported, written, kept⟩

/-- Collisions that merging does not see. Of two spellings of one path the later is written over the
earlier; and a file whose place is a directory around another file is kept out for it. -/
theorem write_collides :
    let spelled : List Bundle :=
      [{ files := [{ path := "a.ts", content := "1" }] },
        { files := [{ path := "./a.ts", content := "2" }] }]
    let nested : List Bundle :=
      [{ files := [{ path := "a/b", content := "1" }] }, { files := [{ path := "a", content := "2" }] }]
    (∃ merged, Bundle.mergeAll .error spelled = .ok merged ∧
      (¬merged.files.Pairwise fun f g => ∀ x y, resolve "o" f.path = some x →
        resolve "o" g.path = some y → x ≠ y) ∧
      (Emitter.write { directory := "o" } .empty merged).2 =
        .ok ⟨["o/a.ts", "o/a.ts"], [], [], false⟩ ∧
      (Emitter.write { directory := "o" } .empty merged).1.read "o/a.ts" = .ok [50]) ∧
    ∃ merged, Bundle.mergeAll .error nested = .ok merged ∧
      (Emitter.write { directory := "o", policy := .never } .empty merged).2 =
        .ok ⟨["o/a/b"], ["o/a"], [], false⟩ := by
  intro spelled nested
  refine ⟨⟨{ files := spelled.flatMap (·.files) }, rfl, ?_, by decide, by decide⟩,
    { files := nested.flatMap (·.files) }, rfl, by decide⟩
  intro apart
  exact (List.pairwise_cons.1 apart).1 _ (List.mem_singleton_self _) "o/a.ts" "o/a.ts" (by decide)
    (by decide) rfl

end Emitter

end Scaffold
