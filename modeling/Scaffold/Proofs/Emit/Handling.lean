import Scaffold.Proofs.FileTree.Store

/-!
What becomes of one file. There are seven ways; the tree changes in two of them, where a file is stored
and where storing it fails halfway.
-/

namespace Scaffold

open Text.Utf8 (Bytes)

namespace Emitter

variable {e : Emitter} {t u : FileTree} {file : OutputFile} {target : String} {content : Bytes}
  {outcome : Outcome}

/-- Whether a file is never to replace one that exists. -/
def Protects (e : Emitter) (file : OutputFile) : Prop :=
  file.overwrite = some false ∨ (file.overwrite = none ∧ e.policy = .never)

/-- Whether it is settled for good what comes of the target of a file, if the file has a content. -/
def Settled (e : Emitter) (t : FileTree) (file : OutputFile) : Prop :=
  ∀ target content, Path.resolve e.directory file.path = some target →
    file.bytes = .ok content → t.tryExists target ≠ .ok false

theorem Settled.within (normal : Path.IsNormal e.directory) (settled : e.Settled t file)
    (within : t.Within u) : e.Settled u file := by
  intro target content resolved decoded
  have known := settled target content resolved decoded
  rwa [within.tryExists_eq (Path.liesBelow_of_resolve normal resolved).normal known]

/-- The ways in which an emitter can handle a file, with the tree and the outcome of each. -/
inductive Handles (e : Emitter) (t : FileTree) (file : OutputFile) :
    FileTree → Outcome → Prop
  | escaping :
      Path.resolve e.directory file.path = none →
      Handles e t file t (.failed file.path .unsafePath)
  | garbled {target : String} {fault : Base64.Fault} :
      Path.resolve e.directory file.path = some target → file.bytes = .error fault →
      Handles e t file t (.failed file.path (.content fault))
  | refused {target : String} {content : Bytes} {fault : FileError} :
      Path.resolve e.directory file.path = some target → file.bytes = .ok content →
      e.keeps t file target content = .error fault →
      Handles e t file t (.failed file.path (.file fault))
  | kept {target : String} {content : Bytes} :
      Path.resolve e.directory file.path = some target → file.bytes = .ok content →
      e.keeps t file target content = .ok true →
      Handles e t file t (.kept target)
  | foreseen {target : String} {content : Bytes} :
      Path.resolve e.directory file.path = some target → file.bytes = .ok content →
      e.keeps t file target content = .ok false → e.dryRun = true →
      Handles e t file t (.written target)
  | stored {target : String} {content : Bytes} {u : FileTree} :
      Path.resolve e.directory file.path = some target → file.bytes = .ok content →
      e.keeps t file target content = .ok false → e.dryRun = false →
      t.store target content file.mode = (u, .ok ()) →
      Handles e t file u (.written target)
  | thwarted {target : String} {content : Bytes} {fault : FileError} {u : FileTree} :
      Path.resolve e.directory file.path = some target → file.bytes = .ok content →
      e.keeps t file target content = .ok false → e.dryRun = false →
      t.store target content file.mode = (u, .error fault) →
      Handles e t file u (.failed file.path (.file fault))

theorem handles_writeFile (e : Emitter) (t : FileTree) (file : OutputFile) :
    e.Handles t file (e.writeFile t file).1 (e.writeFile t file).2 := by
  unfold writeFile
  cases resolved : Path.resolve e.directory file.path with
  | none => exact .escaping resolved
  | some target =>
      cases decoded : file.bytes with
      | error fault => exact .garbled resolved decoded
      | ok content =>
          simp only [writeTo]
          cases keeps : e.keeps t file target content with
          | error fault => exact .refused resolved decoded keeps
          | ok keep =>
              cases keep with
              | true => exact .kept resolved decoded keeps
              | false =>
                  cases dry : e.dryRun with
                  | true => exact .foreseen resolved decoded keeps dry
                  | false =>
                      rw [if_neg Bool.false_ne_true]
                      cases stored : t.store target content file.mode with
                      | mk u result =>
                          cases result with
                          | error fault => exact .thwarted resolved decoded keeps dry stored
                          | ok => exact .stored resolved decoded keeps dry stored

section Keeps

theorem keepsExisting_of_protects (protects : e.Protects file) :
    e.keepsExisting t file target content = .ok true := by
  unfold keepsExisting
  rcases protects with never | ⟨unset, never⟩
  · rw [never]
    rfl
  · rw [unset, never]

theorem keepsExisting_eq_ok_true (keeps : e.keepsExisting t file target content = .ok true) :
    e.Protects file ∨ t.read target = .ok content := by
  unfold keepsExisting at keeps
  unfold Protects
  cases flag : file.overwrite with
  | some overwrite =>
      rw [flag] at keeps
      exact .inl (.inl (by simpa using keeps))
  | none =>
      cases policy : e.policy with
      | always => simp [flag, policy] at keeps
      | never => simp
      | ifChanged =>
          rw [flag, policy] at keeps
          cases held : t.read target with
          | error fault => simp [held] at keeps
          | ok old => simpa [held] using keeps

theorem keepsExisting_eq_error {fault : FileError}
    (keeps : e.keepsExisting t file target content = .error fault) :
    t.read target = .error fault := by
  unfold keepsExisting at keeps
  cases flag : file.overwrite with
  | some overwrite => simp [flag] at keeps
  | none =>
      cases policy : e.policy with
      | always => simp [flag, policy] at keeps
      | never => simp [flag, policy] at keeps
      | ifChanged =>
          rw [flag, policy] at keeps
          cases held : t.read target with
          | error fault' => simpa [held] using keeps
          | ok old => simp [held] at keeps

theorem keeps_of_tryExists (there : t.tryExists target = .ok true) :
    e.keeps t file target content = e.keepsExisting t file target content := by
  unfold keeps
  rw [there]
  rfl

theorem keeps_eq_ok_true (keeps : e.keeps t file target content = .ok true) :
    t.tryExists target = .ok true ∧ e.keepsExisting t file target content = .ok true := by
  cases there : t.tryExists target with
  | error fault =>
      rw [Emitter.keeps, there] at keeps
      cases keeps
  | ok present =>
      cases present with
      | false =>
          rw [Emitter.keeps, there] at keeps
          cases keeps
      | true => exact ⟨rfl, keeps_of_tryExists there ▸ keeps⟩

theorem tryExists_of_keeps {keep : Bool} (keeps : e.keeps t file target content = .ok keep) :
    ∃ present, t.tryExists target = .ok present := by
  cases there : t.tryExists target with
  | error fault =>
      rw [Emitter.keeps, there] at keeps
      cases keeps
  | ok present => exact ⟨present, rfl⟩

theorem stuck_of_keeps {fault : FileError} (keeps : e.keeps t file target content = .error fault) :
    t.Stuck target := by
  cases there : t.tryExists target with
  | error fault => exact .inl ⟨fault, there⟩
  | ok present =>
      cases present with
      | false =>
          rw [Emitter.keeps, there] at keeps
          cases keeps
      | true =>
          rw [keeps_of_tryExists there] at keeps
          exact .inr (FileTree.isDirectory_of_read there (keepsExisting_eq_error keeps))

end Keeps

namespace Handles

variable (handles : e.Handles t file u outcome)
include handles

theorem resolve_of_written (written : outcome = .written target) :
    Path.resolve e.directory file.path = some target := by
  cases handles <;> cases written <;> assumption

theorem decoded_of_written (written : outcome = .written target) :
    ∃ content, file.bytes = .ok content := by
  cases handles <;> cases written <;> exact ⟨_, by assumption⟩

theorem tree_of_dryRun (dry : e.dryRun = true) : u = t := by
  cases handles <;> simp_all

/-- A file that protects what exists is written only where nothing does. -/
theorem tryExists_of_written (written : outcome = .written target) (protects : e.Protects file) :
    t.tryExists target = .ok false := by
  have absent {content : Bytes} (keeps : e.keeps t file target content = .ok false) :
      t.tryExists target = .ok false := by
    obtain ⟨present, there⟩ := tryExists_of_keeps keeps
    cases present with
    | false => exact there
    | true =>
        rw [keeps_of_tryExists there, keepsExisting_of_protects protects] at keeps
        cases keeps
  cases handles with
  | foreseen _ _ keeps =>
      cases written
      exact absent keeps
  | stored _ _ keeps =>
      cases written
      exact absent keeps
  | _ => cases written

variable (normal : Path.IsNormal e.directory)
include normal

/-- Handling a file writes at most to its target. It makes directories only on the way there, and only
if nothing is settled yet. -/
theorem alters :
    t.Alters
      (fun l => ∃ target, Path.resolve e.directory file.path = some target ∧
        l <+: Path.location target ∧ l ≠ Path.location target ∧ ¬e.Settled t file)
      (fun l => ∃ target, outcome = .written target ∧ Path.location target = l) u := by
  have storing {target : String} {content : Bytes} {result : Except FileError Unit}
      (resolved : Path.resolve e.directory file.path = some target)
      (decoded : file.bytes = .ok content) (keeps : e.keeps t file target content = .ok false)
      (stored : t.store target content file.mode = (u, result)) :
      t.Alters (fun l => ∃ target, Path.resolve e.directory file.path = some target ∧
          l <+: Path.location target ∧ l ≠ Path.location target ∧ ¬e.Settled t file)
        (fun l => l = Path.location target ∧ result = .ok ()) u := by
    have below := Path.liesBelow_of_resolve normal resolved
    obtain ⟨present, there⟩ := tryExists_of_keeps keeps
    have alters : t.Alters _ _ (t.store target content file.mode).1 :=
      FileTree.alters_store below.normal below.location_ne_nil
        (FileTree.accepts_of_tryExists below.ne_empty there) t
    rw [stored] at alters
    refine alters.mono (fun l ⟨first, apart, absent⟩ => ⟨target, resolved, first, apart, ?_⟩)
      fun _ => id
    cases present with
    | true => exact absurd there absent
    | false => exact fun settled => settled target content resolved decoded there
  -- the tree changes only where storing is tried
  cases handles with
  | escaping => exact .refl
  | garbled => exact .refl
  | refused => exact .refl
  | kept => exact .refl
  | foreseen => exact .refl
  | stored resolved decoded keeps _ stored =>
      exact (storing resolved decoded keeps stored).mono (fun _ => id)
        fun _ ⟨same, _⟩ => ⟨_, rfl, same.symm⟩
  | thwarted resolved decoded keeps _ stored =>
      refine (storing resolved decoded keeps stored).mono (fun _ => id) fun _ ⟨_, failed⟩ => ?_
      cases failed

/-- In earnest, a file that has a target and a content is written there, or kept out by what is there,
or can never come there. -/
theorem settles (real : e.dryRun = false)
    (resolved : Path.resolve e.directory file.path = some target)
    (decoded : file.bytes = .ok content) :
    (outcome = .written target ∧ u.read target = .ok content) ∨
      (outcome = .kept target ∧ u = t ∧ e.keeps t file target content = .ok true) ∨
      ((∃ fault, outcome = .failed file.path fault) ∧ u.Stuck target) := by
  have below := Path.liesBelow_of_resolve normal resolved
  have accepted (keeps : e.keeps t file target content = .ok false) :
      FileTree.Accepts target := by
    obtain ⟨present, there⟩ := tryExists_of_keeps keeps
    exact FileTree.accepts_of_tryExists below.ne_empty there
  cases handles with
  | escaping none => cases none.symm.trans resolved
  | garbled _ garbled => cases garbled.symm.trans decoded
  | refused resolved' decoded' keeps =>
      cases resolved'.symm.trans resolved
      exact .inr (.inr ⟨⟨_, rfl⟩, stuck_of_keeps keeps⟩)
  | kept resolved' decoded' keeps =>
      cases resolved'.symm.trans resolved
      cases decoded'.symm.trans decoded
      exact .inr (.inl ⟨rfl, rfl, keeps⟩)
  | foreseen _ _ _ dry => cases dry.symm.trans real
  | stored resolved' decoded' keeps _ stored =>
      cases resolved'.symm.trans resolved
      cases decoded'.symm.trans decoded
      exact .inl ⟨rfl, FileTree.read_of_store below.normal below.location_ne_nil
        (accepted keeps) stored⟩
  | thwarted resolved' decoded' keeps _ thwarted =>
      cases resolved'.symm.trans resolved
      cases decoded'.symm.trans decoded
      exact .inr (.inr ⟨⟨_, rfl⟩, FileTree.stuck_of_store below.normal below.location_ne_nil
        (accepted keeps) thwarted⟩)

theorem read_of_not_written (below : Path.LiesBelow e.directory target)
    (unwritten : outcome ≠ .written target) (held : t.read target = .ok content) :
    u.read target = .ok content := by
  refine (handles.alters normal).read_eq below.normal ?_ held
  rintro ⟨other, written, located⟩
  have resolved := handles.resolve_of_written written
  cases (Path.liesBelow_of_resolve normal resolved).ext below located
  exact unwritten written

theorem settled (real : e.dryRun = false) : e.Settled u file := by
  intro target content resolved decoded
  rcases handles.settles normal real resolved decoded with
    ⟨-, held⟩ | ⟨-, rfl, keeps⟩ | ⟨-, stuck⟩
  · simp [FileTree.tryExists_of_read held]
  · simp [(keeps_eq_ok_true keeps).1]
  · exact stuck.tryExists_ne

end Handles

end Emitter

end Scaffold
