import Scaffold.Emit.Write
import Scaffold.Proofs.FileTree.Directories

/-!
Storing a file at the end of a normal path: directories are made around it, then it is written over what
was there. What cannot be stored once never can be.
-/

namespace Scaffold

open Scaffold.Path (IsName IsNormal spell)
open Text.Utf8 (Bytes)

namespace FileTree

variable {t u : FileTree} {rooted : Bool} {names : Location} {n : String}

section Store

variable {content : Bytes} {mode : Option UInt32}

/-- Writes a file at a location, with a mode if one is asked for, unless a directory is there. -/
def put (t : FileTree) (names : Location) (content : Bytes) (mode : Option UInt32) :
    FileTree × Except FileError Unit :=
  let file (old : Nat) : Entry := .file content (mode.elim old fun m => m.toNat % 0o10000)
  match t.look names with
  | .error e => (t, .error e)
  | .ok none => (t.set names (file fileMode), .ok ())
  | .ok (some (.file _ old)) => (t.set names (file old), .ok ())
  | .ok (some .directory) => (t, .error .isDirectory)

theorem store_spell (named : ∀ m ∈ names ++ [n], IsName m)
    (accepted : Accepts (spell rooted (names ++ [n]))) :
    t.store (spell rooted (names ++ [n])) content mode =
      match t.makeDirectories (spell rooted names) with
      | (u, .error e) => (u, .error e)
      | (u, .ok ()) => u.put (names ++ [n]) content mode := by
  unfold store
  rw [Path.parent?_spell_concat named]
  simp only [Option.getD_some]
  cases t.makeDirectories (spell rooted names) with
  | mk u result =>
      cases result with
      | error e => rfl
      | ok =>
          simp only [write_spell named accepted]
          unfold put
          have marked (old : Nat) {seen : Option Entry} (looked : u.look (names ++ [n]) = .ok seen)
              (m : UInt32) :
              (u.set (names ++ [n]) (.file content old)).setMode (spell rooted (names ++ [n]))
                  m.toNat =
                .ok (u.set (names ++ [n]) (.file content (m.toNat % 0o10000))) := by
            rw [setMode_spell named accepted (look_set named looked), set_set]
          cases looked : u.look (names ++ [n]) with
          | error e => rfl
          | ok seen =>
              rcases seen with - | - | ⟨_, old⟩
              · cases mode <;> simp [Except.bind, marked _ looked]
              · rfl
              · cases mode <;> simp [Except.bind, marked _ looked]

theorem alters_put (named : ∀ m ∈ names ++ [n], IsName m) :
    t.Alters (fun _ => False)
      (fun l => l = names ++ [n] ∧ (t.put (names ++ [n]) content mode).2 = .ok ())
      (t.put (names ++ [n]) content mode).1 := by
  have free {seen : Option Entry} (looked : t.look (names ++ [n]) = .ok seen)
      (other : seen ≠ some .directory) : t.get? (names ++ [n]) ≠ some .directory :=
    fun directory => other ((eq_get?_of_look looked).trans directory)
  unfold put
  cases looked : t.look (names ++ [n]) with
  | error e => exact .refl
  | ok seen =>
      have inside := directory_of_look_concat named looked
      rcases seen with - | - | ⟨_, _⟩
      · exact .write .refl inside (free looked (by simp)) ⟨rfl, rfl⟩
      · exact .refl
      · exact .write .refl inside (free looked (by simp)) ⟨rfl, rfl⟩

theorem look_of_put_eq_ok (named : ∀ m ∈ names ++ [n], IsName m)
    (written : t.put (names ++ [n]) content mode = (u, .ok ())) :
    ∃ m, u.look (names ++ [n]) = .ok (some (.file content m)) := by
  unfold put at written
  split at written
  · cases written
  · next looked =>
    cases written
    exact ⟨_, look_set named looked⟩
  · next looked =>
    cases written
    exact ⟨_, look_set named looked⟩
  · cases written

variable {path : String} (normal : IsNormal path) (below : Path.location path ≠ [])
  (accepted : Accepts path)
include normal below accepted

/-- Storing a file writes no other file, and makes directories only on its way and only where nothing
is at its end. -/
theorem alters_store (t : FileTree) :
    t.Alters
      (fun l => l <+: Path.location path ∧ l ≠ Path.location path ∧ t.tryExists path ≠ .ok true)
      (fun l => l = Path.location path ∧ (t.store path content mode).2 = .ok ())
      (t.store path content mode).1 := by
  obtain ⟨rooted, names, n, named, rfl, located⟩ := normal.exists_concat below
  have before := (Path.named_concat_iff.1 named).1
  have around := accepts_spell_of_concat accepted
  rw [located]
  by_cases there : t.tryExists (spell rooted (names ++ [n])) = .ok true
  · obtain ⟨entry, looked⟩ : ∃ entry, t.look (names ++ [n]) = .ok (some entry) := by
      rw [tryExists_spell named accepted] at there
      split at there
      · next seen looked =>
        obtain ⟨entry, rfl⟩ := Option.isSome_iff_exists.1 (Except.ok.inj there)
        exact ⟨entry, looked⟩
      · cases there
      · cases there
    have kept := makeDirectories_of_look before around ((look_concat_eq_ok_iff named).1 looked).1
    rw [store_spell named accepted, kept]
    exact (alters_put named).mono (fun _ => False.elim) fun _ => id
  · have made (written : Location → Prop) :
        t.Alters (fun l => l <+: names ++ [n] ∧ l ≠ names ++ [n] ∧
          t.tryExists (spell rooted (names ++ [n])) ≠ .ok true) written
          (t.makeDirectories (spell rooted names)).1 :=
      (alters_makeDirectories_spell before around t).mono
        (fun _ first =>
          ⟨first.trans (List.prefix_append _ _), ne_concat_of_isPrefix first, there⟩)
        fun _ => False.elim
    rw [store_spell named accepted]
    cases result : t.makeDirectories (spell rooted names) with
    | mk u outcome =>
        rw [result] at made
        cases outcome with
        | error e => exact made _
        | ok => exact (made _).trans ((alters_put named).mono (fun _ => False.elim) fun _ => id)

theorem read_of_store (stored : t.store path content mode = (u, .ok ())) :
    u.read path = .ok content := by
  obtain ⟨rooted, names, n, named, rfl, -⟩ := normal.exists_concat below
  rw [read_spell_eq_ok_iff named accepted]
  rw [store_spell named accepted] at stored
  split at stored
  · cases stored
  · exact look_of_put_eq_ok named stored

theorem stuck_of_store {e : FileError} (failed : t.store path content mode = (u, .error e)) :
    u.Stuck path := by
  obtain ⟨rooted, names, n, named, rfl, -⟩ := normal.exists_concat below
  have before := (Path.named_concat_iff.1 named).1
  have around := accepts_spell_of_concat accepted
  have stuck {u : FileTree} (blocked : u.Barred (names ++ [n])) :
      u.Stuck (spell rooted (names ++ [n])) :=
    .inl (tryExists_of_barred normal accepted ((Path.location_spell named).symm ▸ blocked))
  rw [store_spell named accepted] at failed
  split at failed
  · next made =>
    cases failed
    refine stuck ((barred_concat_iff named).2 ?_)
    rcases blocked_of_makeDirectories_eq_error before around made with blocked | file
    · exact .inl blocked
    · exact .inr (.inl file)
  · next v made =>
    unfold put at failed
    split at failed
    · next e' looked =>
      cases failed
      refine stuck ⟨_, ?_, looked⟩
      -- nothing is missing any more: the directory around has just been made
      rintro rfl
      rw [look_concat named, look_of_makeDirectories_eq_ok before around made] at looked
      simp only [Except.bind] at looked
      split at looked <;> cases looked
    · cases failed
    · cases failed
    · next looked =>
      cases failed
      exact .inr ((isDirectory_spell_iff named accepted).2 looked)

/-- A file can be stored at a path of short names, if no file lies around it and no directory there. -/
theorem store_eq_ok (short : ∀ m ∈ Path.location path, m.utf8ByteSize ≤ nameLimit)
    (clear : ∀ here content mode, here <+: Path.location path → here ≠ Path.location path →
      t.get? here ≠ some (.file content mode))
    (free : t.get? (Path.location path) ≠ some .directory) :
    (t.store path content mode).2 = .ok () := by
  obtain ⟨rooted, names, n, named, rfl, located⟩ := normal.exists_concat below
  rw [located] at short clear free
  have before := (Path.named_concat_iff.1 named).1
  have around := accepts_spell_of_concat accepted
  obtain ⟨shorts, last⟩ : (∀ m ∈ names, _) ∧ n.utf8ByteSize ≤ nameLimit := by
    simpa [or_imp, forall_and] using short
  have ready := makeDirectories_eq_ok before around shorts fun here content mode first =>
    clear here content mode (first.trans (List.prefix_append _ _)) (ne_concat_of_isPrefix first)
  have alters := alters_makeDirectories_spell before around t
  rw [store_spell named accepted]
  cases made : t.makeDirectories (spell rooted names) with
  | mk u result =>
      rw [made] at ready alters
      cases ready
      have same : u.get? (names ++ [n]) = t.get? (names ++ [n]) :=
        alters.get?_eq (fun first => ne_concat_of_isPrefix first rfl) id
      have looked : u.look (names ++ [n]) = .ok (u.get? (names ++ [n])) :=
        (look_concat_eq_ok_iff named).2
          ⟨look_of_makeDirectories_eq_ok before around made, last, rfl⟩
      simp only [put, looked]
      rw [same]
      cases present : t.get? (names ++ [n]) with
      | none => rfl
      | some entry =>
          cases entry with
          | directory => exact absurd present free
          | file => rfl

end Store

end FileTree

end Scaffold
