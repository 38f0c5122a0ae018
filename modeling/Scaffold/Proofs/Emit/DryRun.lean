import Scaffold.Proofs.Emit.Runs

/-!
What a dry run foretells. Where targets are apart from each other, no file that is written changes what
the others find, so a dry run comes to the same report as a run in earnest.
-/

namespace Scaffold

open Text.Utf8 (Bytes)

namespace FileTree

variable {t u v : FileTree} {location : Location}

/-- Whether one tree has grown into another only apart from a location: the entry there and the files
around it are still the same. -/
structure GrowsApart (t u : FileTree) (location : Location) : Prop where
  within : t.Within u
  same : u.get? location = t.get? location
  clear : ∀ {here content mode}, here <+: location → here ≠ location →
    u.get? here = some (.file content mode) → t.get? here = some (.file content mode)

theorem GrowsApart.refl (t : FileTree) (location : Location) : t.GrowsApart t location :=
  ⟨.refl t, rfl, fun _ _ => id⟩

theorem GrowsApart.alters {made written : Location → Prop} (grows : t.GrowsApart u location)
    (alters : u.Alters made written v) (unmade : ¬made location)
    (unwritten : ∀ here, here <+: location → ¬written here) : t.GrowsApart v location where
  within := grows.within.trans alters.within
  same := (alters.get?_eq unmade (unwritten _ List.prefix_rfl)).trans grows.same
  clear first apart present :=
    grows.clear first apart (alters.file_of_not_written (unwritten _ first) present)

section Paths

variable {path : String} (connected : t.Connected) (normal : Path.IsNormal path)
  (filled : path ≠ "") {known : Bool}
include connected normal filled

theorem clear_of_tryExists (looked : t.tryExists path = .ok known) {here : Location}
    {content : Bytes} {mode : Nat} (first : here <+: Path.location path)
    (apart : here ≠ Path.location path) : t.get? here ≠ some (.file content mode) := by
  intro present
  obtain ⟨e, failed⟩ := tryExists_of_barred normal (accepts_of_tryExists filled looked)
    (connected.barred_of_file normal.named first apart present)
  cases failed.symm.trans looked

theorem isDirectory_of_get? (looked : t.tryExists path = .ok known)
    (present : t.get? (Path.location path) = some .directory) : t.isDirectory path = true := by
  have accepted := accepts_of_tryExists filled looked
  rcases not_vacant_iff.1 (connected.not_vacant normal.named present) with blocked | ⟨e, found⟩
  · obtain ⟨e, failed⟩ := tryExists_of_barred normal accepted blocked
    cases failed.symm.trans looked
  · refine (isDirectory_iff normal).2 ⟨accepted, ?_⟩
    rw [found, eq_get?_of_look found, present]

variable (short : ∀ n ∈ Path.location path, n.utf8ByteSize ≤ nameLimit)
  (grows : t.GrowsApart u (Path.location path))
include short grows

theorem GrowsApart.tryExists_eq : u.tryExists path = t.tryExists path := by
  by_cases absent : t.tryExists path = .ok false
  · obtain ⟨accepted, vacant⟩ := (tryExists_eq_ok_false_iff normal filled).1 absent
    rw [absent, tryExists_eq_ok_false_iff normal filled]
    refine ⟨accepted, ?_⟩
    by_contra found
    rcases not_vacant_iff.1 found with blocked | ⟨e, looked⟩
    · rcases long_or_file_of_barred normal.named blocked with
        ⟨n, member, long⟩ | ⟨here, content, mode, first, apart, present⟩
      · exact absurd (short n member) (by omega)
      · exact clear_of_tryExists connected normal filled absent first apart
          (grows.clear first apart present)
    · have present : t.get? (Path.location path) = some e := by
        rw [← grows.same, eq_get?_of_look looked]
      exact connected.not_vacant normal.named present vacant
  · exact grows.within.tryExists_eq normal absent

variable (free : t.isDirectory path = false)
include free

omit connected filled short in
theorem GrowsApart.read_eq (there : t.tryExists path = .ok true) : u.read path = t.read path := by
  cases held : t.read path with
  | ok content => exact grows.within.read_eq normal grows.same held
  | error e => cases (isDirectory_of_read there held).symm.trans free

theorem GrowsApart.store_eq_ok (looked : t.tryExists path = .ok known) {content : Bytes}
    {mode : Option UInt32} (below : Path.location path ≠ []) :
    (u.store path content mode).2 = .ok () := by
  refine FileTree.store_eq_ok normal below (accepts_of_tryExists filled looked) short ?_ ?_
  · intro here content mode first apart present
    exact clear_of_tryExists connected normal filled looked first apart
      (grows.clear first apart present)
  · intro directory
    rw [grows.same] at directory
    cases (isDirectory_of_get? connected normal filled looked directory).symm.trans free

end Paths

end FileTree

namespace Emitter

variable {e : Emitter} {t u : FileTree} {file : OutputFile} {files : List OutputFile}

/-- Whether the targets of files are apart from each other and from the directories of a tree, and
their names are not too long. -/
structure Independent (e : Emitter) (t : FileTree) (files : List OutputFile) : Prop where
  distinct : (e.targets files).Nodup
  apart : ∀ a ∈ e.targets files, ∀ b ∈ e.targets files, a ∈ Path.ancestors b → a = b
  free : ∀ target ∈ e.targets files, t.isDirectory target = false
  short : ∀ target ∈ e.targets files, ∀ name ∈ Path.location target,
    name.utf8ByteSize ≤ FileTree.nameLimit

namespace Independent

theorem tail (independent : e.Independent t (file :: files)) : e.Independent t files := by
  refine ⟨independent.distinct.sublist ((List.sublist_cons_self file files).filterMap _), ?_, ?_, ?_⟩
  · intro a member b member'
    exact independent.apart a (mem_targets_of_tail member) b (mem_targets_of_tail member')
  · exact fun target member => independent.free target (mem_targets_of_tail member)
  · exact fun target member => independent.short target (mem_targets_of_tail member)

theorem head_apart (normal : Path.IsNormal e.directory)
    (independent : e.Independent t (file :: files)) {target other : String}
    (resolved : Path.resolve e.directory file.path = some target) (member : other ∈ e.targets files) :
    ¬Path.location target <+: Path.location other ∧
      ¬Path.location other <+: Path.location target := by
  have first : target ∈ e.targets (file :: files) :=
    mem_targets_iff.2 ⟨file, List.mem_cons_self, resolved⟩
  have later : other ∈ e.targets (file :: files) := mem_targets_of_tail member
  have distinct := independent.distinct
  rw [targets_cons resolved, List.nodup_cons] at distinct
  obtain ⟨file', -, resolved'⟩ := mem_targets_iff.1 member
  have below := Path.liesBelow_of_resolve normal resolved
  have below' := Path.liesBelow_of_resolve normal resolved'
  constructor
  · intro around
    exact distinct.1 (independent.apart _ first _ later (below.mem_ancestors below' around) ▸ member)
  · intro around
    exact distinct.1 (independent.apart _ later _ first (below'.mem_ancestors below around) ▸ member)

end Independent

section Foretells

variable (normal : Path.IsNormal e.directory) (connected : t.Connected)
include connected

theorem keeps_of_growsApart {target : String} {content : Bytes} (filled : target ≠ "")
    (below : Path.IsNormal target) (free : t.isDirectory target = false)
    (short : ∀ name ∈ Path.location target, name.utf8ByteSize ≤ FileTree.nameLimit)
    (grows : t.GrowsApart u (Path.location target)) :
    e.keeps u file target content = e.keeps t file target content := by
  have looked := grows.tryExists_eq connected below filled short
  by_cases there : t.tryExists target = .ok true
  · rw [keeps_of_tryExists there, keeps_of_tryExists (looked.trans there)]
    unfold keepsExisting
    rw [grows.read_eq below free there]
  · unfold keeps
    rw [looked]
    rcases known : t.tryExists target with fault | - | -
    · rfl
    · rfl
    · exact absurd known there

include normal

/-- A file is told of in earnest, whatever was written before apart from it, as it is in a dry run. -/
theorem writeFile_foretold (independent : e.Independent t (file :: files))
    (grows : ∀ target, Path.resolve e.directory file.path = some target →
      t.GrowsApart u (Path.location target)) :
    ({ e with dryRun := false }.writeFile u file).2 =
      ({ e with dryRun := true }.writeFile t file).2 := by
  unfold writeFile
  cases resolved : Path.resolve e.directory file.path with
  | none => rfl
  | some target =>
      cases file.bytes with
      | error fault => rfl
      | ok content =>
          have member : target ∈ e.targets (file :: files) :=
            mem_targets_iff.2 ⟨file, List.mem_cons_self, resolved⟩
          have below := Path.liesBelow_of_resolve normal resolved
          have grows := grows target resolved
          have free := independent.free target member
          have short := independent.short target member
          have keeps : e.keeps u file target content = e.keeps t file target content :=
            keeps_of_growsApart connected below.ne_empty below.normal free short grows
          have alike : ({ e with dryRun := false }.keeps u file target content) =
              ({ e with dryRun := true }.keeps t file target content) := keeps
          simp only [writeTo, alike]
          cases kept : { e with dryRun := true }.keeps t file target content with
          | error fault => rfl
          | ok keep =>
              cases keep with
              | true => rfl
              | false =>
                  obtain ⟨known, looked⟩ := tryExists_of_keeps kept
                  have stored : (u.store target content file.mode).2 = .ok () :=
                    grows.store_eq_ok connected below.normal below.ne_empty short free looked
                      below.location_ne_nil
                  cases result : u.store target content file.mode with
                  | mk v outcome =>
                      rw [result] at stored
                      cases stored
                      rfl

theorem writeFiles_foretold (independent : e.Independent t files)
    (grows : ∀ target ∈ e.targets files, t.GrowsApart u (Path.location target)) :
    ({ e with dryRun := false }.writeFiles u files).2 =
      ({ e with dryRun := true }.writeFiles t files).2 := by
  induction files generalizing u with
  | nil => rfl
  | cons file files ih =>
      have dry : ({ e with dryRun := true }.writeFile t file).1 = t :=
        (handles_writeFile _ t file).tree_of_dryRun rfl
      have handles := { e with dryRun := false }.handles_writeFile u file
      have first := writeFile_foretold normal connected independent fun target resolved =>
        grows target (mem_targets_iff.2 ⟨file, List.mem_cons_self, resolved⟩)
      rw [writeFiles_cons, writeFiles_cons, dry, first, ih independent.tail]
      -- what the first file changes is apart from all later targets
      intro other member
      refine (grows other (mem_targets_of_tail member)).alters (handles.alters normal) ?_ ?_
      · rintro ⟨target, resolved, around, -⟩
        exact (independent.head_apart normal resolved member).2 around
      · rintro here around ⟨target, written, rfl⟩
        exact (independent.head_apart normal (handles.resolve_of_written written) member).1 around

end Foretells

/-- A dry run foretells what a run in earnest does. If targets are apart from each other and from the
directories that are there, both report the same files as written and as skipped, and the same
failures. The process is privileged: a run in earnest is refused nothing for want of a permission,
which a dry run could not foretell, as it tries nothing. -/
theorem write_foretold (e : Emitter) (t : FileTree) (bundle : Bundle)
    (normal : Path.IsNormal e.directory) (connected : t.Connected)
    (ready : (t.makeDirectories e.directory).2 = .ok ())
    (independent : e.Independent t bundle.files) :
    ∃ dry real, ({ e with dryRun := true }.write t bundle).2 = .ok dry ∧
      ({ e with dryRun := false }.write t bundle).2 = .ok real ∧
      dry.written = real.written ∧ dry.skipped = real.skipped ∧ dry.failed = real.failed := by
  have prepared (target : String) (member : target ∈ e.targets bundle.files) :
      t.GrowsApart (t.makeDirectories e.directory).1 (Path.location target) := by
    obtain ⟨file, -, resolved⟩ := mem_targets_iff.1 member
    have below := Path.liesBelow_of_resolve normal resolved
    refine (FileTree.GrowsApart.refl t _).alters (FileTree.alters_makeDirectories normal t) ?_ ?_
    · exact fun around => below.apart (around.eq_of_length_le below.inside.length_le)
    · exact fun _ _ => id
  have real : { e with dryRun := false }.write t bundle = _ := write_of_ready rfl ready
  rw [write_of_dryRun rfl, real, writeFiles_foretold normal connected independent prepared]
  exact ⟨_, _, rfl, rfl, rfl, rfl, rfl⟩

/-- One file is kept, one is in the way of another, one escapes, and one is new. -/
theorem write_foretold_mixed :
    let e : Emitter := { directory := "o", policy := .ifChanged }
    let t : FileTree := ⟨[(["o"], .directory), (["o", "a"], .file [49] 0o644),
      (["o", "b"], .file [] 0o600)]⟩
    let bundle : Bundle := { files := [
      { path := "./a", content := "MQ==", encoding := some .base64 },
      { path := "b/c", content := "2" },
      { path := "../o/a", content := "3", overwrite := some true },
      { path := "d//e/../f", content := "4" }] }
    Path.IsNormal e.directory ∧ t.Connected ∧ (t.makeDirectories e.directory).2 = .ok () ∧
      e.Independent t bundle.files ∧
      ∃ dry real, ({ e with dryRun := true }.write t bundle).2 = .ok dry ∧
        ({ e with dryRun := false }.write t bundle).2 = .ok real ∧
        (dry.written = ["o/d/f"] ∧ real.written = ["o/d/f"]) ∧
        (dry.skipped = ["o/a"] ∧ real.skipped = ["o/a"]) ∧
        dry.failed = [("b/c", .file .notDirectory), ("../o/a", .unsafePath)] ∧
        real.failed = [("b/c", .file .notDirectory), ("../o/a", .unsafePath)] := by
  intro e t bundle
  have normal : Path.IsNormal e.directory := by decide
  have connected : t.Connected := by decide
  have ready : (t.makeDirectories e.directory).2 = .ok () := by decide
  have independent : e.Independent t bundle.files :=
    ⟨by decide, by decide, by decide, by decide⟩
  obtain ⟨dry, real, foreseen, done, written, skipped, failed⟩ :=
    write_foretold e t bundle normal connected ready independent
  have found : ({ e with dryRun := true }.write t bundle).2 = .ok ⟨["o/d/f"], ["o/a"],
      [("b/c", .file .notDirectory), ("../o/a", .unsafePath)], true⟩ := by
    decide
  cases foreseen.symm.trans found
  exact ⟨normal, connected, ready, independent, _, real, foreseen, done, ⟨rfl, written.symm⟩,
    ⟨rfl, skipped.symm⟩, rfl, failed.symm⟩

end Emitter

end Scaffold
