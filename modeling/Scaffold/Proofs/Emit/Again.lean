import Scaffold.Proofs.Emit.Report

/-!
Emitting a bundle again. After a first emission everything is settled: nothing is missing that could be
made, and a target holds what the last file says that may replace it.
-/

namespace Scaffold

open Text.Utf8 (Bytes)

/-- What a file holds; a directory holds nothing. -/
def Entry.content? : Entry → Option Bytes
  | .directory => none
  | .file content _ => some content

namespace Emitter

/-- Whether a file is to have its content at a target, whatever is there. -/
def Demands (e : Emitter) (file : OutputFile) (target : String) (content : Bytes) : Prop :=
  Path.resolve e.directory file.path = some target ∧ file.bytes = .ok content ∧ ¬e.Protects file

variable {e : Emitter} {t u : FileTree} {file : OutputFile} {files : List OutputFile}
  {outcome : Outcome} {target : String} {content : Bytes}

theorem content?_of_read (below : Path.IsNormal target) (held : t.read target = .ok content) :
    (t.get? (Path.location target)).map Entry.content? = some (some content) := by
  obtain ⟨-, mode, looked⟩ := (FileTree.read_eq_ok_iff below).1 held
  rw [← FileTree.eq_get?_of_look looked]
  rfl

section Again

variable (normal : Path.IsNormal e.directory)
include normal

theorem Handles.read_of_demands (handles : e.Handles t file u outcome) (real : e.dryRun = false)
    (demands : e.Demands file target content) :
    u.Stuck target ∨ u.read target = .ok content := by
  obtain ⟨resolved, decoded, free⟩ := demands
  rcases handles.settles normal real resolved decoded with
    ⟨-, held⟩ | ⟨-, rfl, keeps⟩ | ⟨-, stuck⟩
  · exact .inr held
  · exact .inr ((keepsExisting_eq_ok_true (keeps_eq_ok_true keeps).2).resolve_left free)
  · exact .inl stuck

section Target

variable (below : Path.LiesBelow e.directory target)
include below

theorem Handles.read_of_not_demands (handles : e.Handles t file u outcome)
    (spares : ∀ content, ¬e.Demands file target content) (held : t.read target = .ok content) :
    u.read target = .ok content := by
  refine handles.read_of_not_written normal below (fun written => ?_) held
  by_cases protects : e.Protects file
  · cases (FileTree.tryExists_of_read held).symm.trans
      (handles.tryExists_of_written written protects)
  · obtain ⟨content, decoded⟩ := handles.decoded_of_written written
    exact spares content ⟨handles.resolve_of_written written, decoded, protects⟩

theorem read_of_spared (spares : ∀ file ∈ files, ∀ content, ¬e.Demands file target content)
    (held : t.read target = .ok content) : (e.writeFiles t files).1.read target = .ok content := by
  induction files generalizing t with
  | nil => exact held
  | cons file files ih =>
      obtain ⟨first, rest⟩ := List.forall_mem_cons.1 spares
      exact ih rest ((e.handles_writeFile t file).read_of_not_demands normal below first held)

/-- What a target holds in the end, if a file can come there, is up to the files alone. -/
theorem exists_lasting (real : e.dryRun = false)
    (demanded : ∃ file ∈ files, ∃ content, e.Demands file target content) :
    ∃ content, ∀ t, (e.writeFiles t files).1.Stuck target ∨
      (e.writeFiles t files).1.read target = .ok content := by
  induction files with
  | nil =>
      obtain ⟨file, none, -⟩ := demanded
      cases none
  | cons file files ih =>
      -- the last file that demands the target decides, for all that follow spare it
      by_cases later : ∃ file ∈ files, ∃ content, e.Demands file target content
      · obtain ⟨content, lasting⟩ := ih later
        exact ⟨content, fun t => lasting (e.writeFile t file).1⟩
      · obtain ⟨last, member, content, demands⟩ := demanded
        rcases List.mem_cons.1 member with rfl | member
        · refine ⟨content, fun t => ?_⟩
          rw [writeFiles_cons]
          rcases (e.handles_writeFile t last).read_of_demands normal real demands with stuck | held
          · exact .inl ((alters_writeFiles normal _ files).within.stuck below.normal stuck)
          · refine .inr (read_of_spared normal below ?_ held)
            exact fun file member content demands => later ⟨file, member, content, demands⟩
        · exact absurd ⟨last, member, content, demands⟩ later

/-- A file that a first emission leaves is the same after a second. -/
theorem read_again (real : e.dryRun = false)
    (held : (e.writeFiles t files).1.read target = .ok content) :
    (e.writeFiles (e.writeFiles t files).1 files).1.read target = .ok content := by
  by_cases demanded : ∃ file ∈ files, ∃ content, e.Demands file target content
  · obtain ⟨last, lasting⟩ := exists_lasting normal below real demanded
    have within := (alters_writeFiles normal (e.writeFiles t files).1 files).within
    rcases lasting t with stuck | first
    · exact absurd held stuck.read_ne_ok
    · rcases lasting (e.writeFiles t files).1 with stuck | second
      · obtain ⟨content, held⟩ := within.exists_read below.normal held
        exact absurd held stuck.read_ne_ok
      · rw [second, ← first, held]
  · refine read_of_spared normal below ?_ held
    exact fun file member content demands => demanded ⟨file, member, content, demands⟩

end Target

theorem content?_writeFiles_again (real : e.dryRun = false) (t : FileTree)
    (files : List OutputFile) (location : Location) :
    ((e.writeFiles (e.writeFiles t files).1 files).1.get? location).map Entry.content? =
      ((e.writeFiles t files).1.get? location).map Entry.content? := by
  have settled := settled_writeFiles normal real t files
  have alters := alters_writeFiles normal (e.writeFiles t files).1 files
  by_cases written : ∃ target, .written target ∈ (e.writeFiles (e.writeFiles t files).1 files).2 ∧
      Path.location target = location
  · obtain ⟨target, member, rfl⟩ := written
    have below := liesBelow_of_written normal member
    obtain ⟨content, last, held⟩ := read_of_written normal real member
    obtain ⟨file, member, resolved, decoded⟩ := last.exists_file (accounts_writeFiles e _ files)
    obtain ⟨old, before⟩ := alters.within.exists_read_of_known below.normal
      (settled file member target content resolved decoded) held
    rw [content?_of_read below.normal before,
      content?_of_read below.normal (read_again normal below real before)]
  · rw [alters.get?_eq ?_ written]
    rintro ⟨file, member, target, -, -, -, unsettled⟩
    exact unsettled (settled file member)

/-- A file that goes only where it differs is kept once its target holds its content, if no other file
has that target. -/
theorem kept_of_read (distinct : (e.targets files).Nodup) (policy : e.policy = .ifChanged)
    (member : file ∈ files) (unset : file.overwrite = none)
    (resolved : Path.resolve e.directory file.path = some target)
    (decoded : file.bytes = .ok content) (held : t.read target = .ok content) :
    .kept target ∈ (e.writeFiles t files).2 := by
  induction files generalizing t with
  | nil => cases member
  | cons first files ih =>
      rw [writeFiles_cons]
      rcases List.mem_cons.1 member with rfl | member
      · have keeps : e.keeps t file target content = .ok true := by
          rw [keeps_of_tryExists (FileTree.tryExists_of_read held), keepsExisting, unset, policy]
          simp [held]
        have kept : (e.writeFile t file).2 = .kept target := by
          simp only [writeFile, resolved, decoded, writeTo, keeps]
        exact kept ▸ List.mem_cons_self
      · have later : target ∈ e.targets files := mem_targets_iff.2 ⟨file, member, resolved⟩
        have below := Path.liesBelow_of_resolve normal resolved
        have handles := e.handles_writeFile t first
        refine List.mem_cons_of_mem _ (ih ?_ member ?_)
        · exact distinct.sublist ((List.sublist_cons_self first files).filterMap _)
        · refine handles.read_of_not_written normal below (fun written => ?_) held
          rw [targets_cons (handles.resolve_of_written written), List.nodup_cons] at distinct
          exact distinct.1 later

end Again

/-- Emitting a bundle twice leaves the same paths, of the same kinds and with the same contents, as
emitting it once. If each target is that of one file, and files go only where they differ, then all
that was written at first is skipped the second time. The process is privileged: whatever permission
bits the first emission gives its files, the second can read them and write over them. -/
theorem write_again (e : Emitter) (t : FileTree) (bundle : Bundle)
    (normal : Path.IsNormal e.directory) (ready : (t.makeDirectories e.directory).2 = .ok ()) :
    let first := e.write t bundle
    let second := e.write first.1 bundle
    ∃ before after, first.2 = .ok before ∧ second.2 = .ok after ∧
      (∀ location, (second.1.get? location).map Entry.content? =
        (first.1.get? location).map Entry.content?) ∧
      (e.dryRun = false → (e.targets bundle.files).Nodup → e.policy = .ifChanged →
        (∀ file ∈ bundle.files, file.overwrite = none) →
        ∀ target ∈ before.written, target ∈ after.skipped) := by
  cases dry : e.dryRun with
  | true =>
      simp only [write_of_dryRun dry]
      exact ⟨_, _, rfl, rfl, fun _ => trivial, fun real => nomatch real⟩
  | false =>
      let made := (t.makeDirectories e.directory).1
      have again : (e.writeFiles made bundle.files).1.makeDirectories e.directory = _ :=
        FileTree.makeDirectories_again normal ready (alters_writeFiles normal made _).within
      have second : e.write (e.writeFiles made bundle.files).1 bundle = _ :=
        write_of_ready dry (congrArg Prod.snd again)
      rw [again] at second
      simp only [write_of_ready dry ready, made, second]
      refine ⟨_, _, rfl, rfl, content?_writeFiles_again normal dry _ bundle.files, ?_⟩
      intro _ distinct policy unset target member
      rw [WriteReport.mem_written_iff] at member
      rw [WriteReport.mem_skipped_iff]
      obtain ⟨content, last, held⟩ := read_of_written normal dry member
      obtain ⟨file, member, resolved, decoded⟩ := last.exists_file (accounts_writeFiles e _ _)
      exact kept_of_read normal distinct policy member (unset file member) resolved decoded held

-- Modes may differ: the second time, the first file differs from what the other left, and is written.
example :
    let e : Emitter := { directory := "o", policy := .ifChanged }
    let t : FileTree := ⟨[(["o"], .directory), (["o", "a"], .file [49] 0o644)]⟩
    let bundle : Bundle := { files := [
      { path := "a", content := "1", mode := some 0o600 },
      { path := "a", content := "2", overwrite := some true }] }
    let first := (e.write t bundle).1
    first.get? ["o", "a"] = some (.file [50] 0o644) ∧
      (e.write first bundle).1.get? ["o", "a"] = some (.file [50] 0o600) := by
  decide

/-- What is written over, and what is new, is skipped the second time. -/
theorem write_again_skips :
    let e : Emitter := { directory := "o", policy := .ifChanged }
    let t : FileTree := ⟨[(["o"], .directory), (["o", "a"], .file [49] 0o644)]⟩
    let bundle : Bundle := { files := [
      { path := "a", content := "2" }, { path := "a/b", content := "3" },
      { path := "c//d", content := "4", mode := some 0o600 }] }
    Path.IsNormal e.directory ∧ (t.makeDirectories e.directory).2 = .ok () ∧
      (e.targets bundle.files).Nodup ∧
      ∃ before after, (e.write t bundle).2 = .ok before ∧
        (e.write (e.write t bundle).1 bundle).2 = .ok after ∧
        before.written = ["o/a", "o/c/d"] ∧ "o/a" ∈ after.skipped ∧ "o/c/d" ∈ after.skipped := by
  intro e t bundle
  have normal : Path.IsNormal e.directory := by decide
  have ready : (t.makeDirectories e.directory).2 = .ok () := by decide
  have distinct : (e.targets bundle.files).Nodup := by decide
  obtain ⟨before, after, wrote, rewrote, -, skips⟩ := write_again e t bundle normal ready
  have found : (e.write t bundle).2 =
      .ok ⟨["o/a", "o/c/d"], [], [("a/b", .file .notDirectory)], false⟩ := by
    decide
  cases wrote.symm.trans found
  have skipped := skips rfl distinct rfl (by decide)
  exact ⟨normal, ready, distinct, _, after, wrote, rewrote, rfl, skipped _ (by simp),
    skipped _ (by simp)⟩

end Emitter

end Scaffold
