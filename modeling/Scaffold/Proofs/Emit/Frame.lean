import Scaffold.Proofs.Emit.Runs

/-!
What an emitter leaves alone: it adds to a tree at and below its directory, and of what was there it
changes only files that are targets and are not protected.
-/

namespace Scaffold

open Text.Utf8 (Bytes)

namespace Emitter

section Frame

variable {e : Emitter} {t : FileTree} {files : List OutputFile} {location : Location}
  {content : Bytes} {mode : Nat} (normal : Path.IsNormal e.directory)
include normal

theorem below_of_written {l : Location}
    (written : ∃ target, .written target ∈ (e.writeFiles t files).2 ∧
      Path.location target = l) :
    Path.location e.directory <+: l ∧ l ≠ Path.location e.directory := by
  obtain ⟨target, member, rfl⟩ := written
  have below := liesBelow_of_written normal member
  exact ⟨below.inside, below.apart⟩

theorem alters_write (t : FileTree) (bundle : Bundle) :
    t.Alters
      (fun l => l <+: Path.location e.directory ∨
        (Path.location e.directory <+: l ∧ l ≠ Path.location e.directory))
      (fun l => Path.location e.directory <+: l ∧ l ≠ Path.location e.directory)
      (e.write t bundle).1 := by
  cases dry : e.dryRun with
  | true =>
      rw [write_of_dryRun dry]
      exact .refl
  | false =>
      have prepared (written : Location → Prop) :
          t.Alters
            (fun l => l <+: Path.location e.directory ∨
              (Path.location e.directory <+: l ∧ l ≠ Path.location e.directory))
            written (t.makeDirectories e.directory).1 :=
        (FileTree.alters_makeDirectories normal t).mono (fun _ => .inl) fun _ => False.elim
      cases ready : (t.makeDirectories e.directory).2 with
      | error fault =>
          rw [write_of_unready dry ready]
          exact prepared _
      | ok =>
          rw [write_of_ready dry ready]
          refine (prepared _).trans ((alters_writeFiles normal _ bundle.files).mono ?_ ?_)
          · -- what is around a target is around the directory too, or the directory, or below it
            rintro l ⟨file, -, target, resolved, first, -⟩
            have below := Path.liesBelow_of_resolve normal resolved
            rcases List.prefix_or_prefix_of_prefix first below.inside with around | inside
            · exact .inl around
            · by_cases same : l = Path.location e.directory
              · exact .inl (same ▸ List.prefix_rfl)
              · exact .inr ⟨inside, same⟩
          · exact fun l => below_of_written normal

/-- A file stays as it is where all that resolves to it is protected. -/
theorem get?_writeFiles_of_protects (connected : t.Connected)
    (present : t.get? location = some (.file content mode))
    (protects : ∀ file ∈ files, ∀ target, Path.resolve e.directory file.path = some target →
      Path.location target = location → e.Protects file) :
    (e.writeFiles t files).1.get? location = some (.file content mode) := by
  induction files generalizing t with
  | nil => exact present
  | cons file files ih =>
      obtain ⟨guarded, rest⟩ := List.forall_mem_cons.1 protects
      have handles := e.handles_writeFile t file
      have alters := handles.alters normal
      rw [writeFiles_cons]
      refine ih (alters.connected connected) (alters.get?_of_some present ?_) rest
      -- a protected file is written only where nothing is
      rintro ⟨target, written, rfl⟩
      have resolved := handles.resolve_of_written written
      have below := Path.liesBelow_of_resolve normal resolved
      exact connected.tryExists_ne below.normal below.ne_empty present
        (handles.tryExists_of_written written (guarded target resolved rfl))

end Frame

/-- Whatever an emitter is told to write, nothing goes away and nothing changes its kind. What is new
is the output directory, a directory around it, or something below it. A file that was there keeps its
content and mode, unless it is the target of a file that may replace it. A dry run changes nothing. -/
theorem write_frames (e : Emitter) (t : FileTree) (bundle : Bundle)
    (normal : Path.IsNormal e.directory) (connected : t.Connected) :
    let after := (e.write t bundle).1
    t.Within after ∧
    (∀ location entry, t.get? location = none → after.get? location = some entry →
      (entry = .directory ∧ location <+: Path.location e.directory) ∨
        (Path.location e.directory <+: location ∧ location ≠ Path.location e.directory)) ∧
    (∀ location content mode, t.get? location = some (.file content mode) →
      (∀ file ∈ bundle.files, ∀ target, Path.resolve e.directory file.path = some target →
        Path.location target = location → e.Protects file) →
      after.get? location = some (.file content mode)) ∧
    (e.dryRun = true → after = t) := by
  have alters := alters_write normal t bundle
  refine ⟨alters.within, ?_, ?_, fun dry => by rw [write_of_dryRun dry]⟩
  · intro location entry absent present
    rcases alters.made_or_written absent present with ⟨directory, around | below⟩ | ⟨-, below⟩
    · exact .inl ⟨directory, around⟩
    · exact .inr below
    · exact .inr below
  · intro location content mode present protects
    cases dry : e.dryRun with
    | true => rwa [write_of_dryRun dry]
    | false =>
        have prepared := FileTree.alters_makeDirectories normal t
        have still := prepared.get?_of_some present id
        cases ready : (t.makeDirectories e.directory).2 with
        | error fault => rwa [write_of_unready dry ready]
        | ok =>
            rw [write_of_ready dry ready]
            exact get?_writeFiles_of_protects normal (prepared.connected connected) still protects

/-- A file that is not to be replaced stays, while a new one comes beside it. -/
theorem write_frames_guarding :
    let t : FileTree := ⟨[(["w"], .directory), (["w", "out"], .directory),
      (["w", "out", "env"], .file [107] 0o600)]⟩
    let guarded : OutputFile := { path := "./env", content := "new", overwrite := some false }
    let fresh : OutputFile := { path := "src/../a//b", content := "ba" }
    let after := (Emitter.write { directory := "/w/out" } t { files := [guarded, fresh] }).1
    Path.IsNormal "/w/out" ∧ t.Connected ∧ t.Within after ∧
      after.get? ["w", "out", "env"] = some (.file [107] 0o600) ∧
      after.get? ["w", "out", "a", "b"] = some (.file [98, 97] 0o644) := by
  intro t guarded fresh after
  have normal : Path.IsNormal "/w/out" := by decide
  have connected : t.Connected := by decide
  obtain ⟨within, -, still, -⟩ :=
    write_frames { directory := "/w/out" } t { files := [guarded, fresh] } normal connected
  refine ⟨normal, connected, within, still _ _ _ rfl ?_, by decide⟩
  intro file member target resolved located
  rcases List.mem_pair.1 member with rfl | rfl
  · exact .inl rfl
  · cases (show Path.resolve "/w/out" fresh.path = some "/w/out/a/b" by decide).symm.trans resolved
    exact absurd located (by decide)

end Emitter

end Scaffold
