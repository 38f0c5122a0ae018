import Scaffold.Proofs.FileTree.Walks
import Scaffold.Proofs.Path.Ancestors

/-!
What is found below an absolute path, be that tidy or not. Stretches that lead nowhere change
nothing about a path but its length; with them it may be too long to find anything.
-/

namespace Scaffold

open Scaffold.Path (IsName component? isAbsolute join split tidy trunk)

namespace FileTree

variable {t : FileTree}

section Idle

variable {here : Location} {s n : String} {stretches idle : List String}

theorem step_of_none (nothing : component? s = none) (here : Location) :
    t.step here s =
      match t.get? here with
      | none => .error .notFound
      | some (.file _ _) => .error .notDirectory
      | some .directory => .ok here := by
  rcases Path.component?_eq_none_iff.1 nothing with rfl | rfl
  · rfl
  · rfl

/-- What leads nowhere asks for a directory, as the next step does anyway. -/
theorem step_bind_step (nothing : component? s = none) (here : Location) (n : String) :
    (t.step here s).bind (t.step · n) = t.step here n := by
  rw [step_of_none nothing]
  cases present : t.get? here with
  | none => simp [step, present, Except.bind]
  | some e => cases e <;> simp [step, present, Except.bind]

theorem walk_append_idle (nothing : ∀ s ∈ idle, component? s = none)
    (walked : t.walk stretches = .ok here) (inside : t.get? here = some .directory) :
    t.walk (stretches ++ idle) = .ok here := by
  induction idle using List.reverseRecOn with
  | nil => rwa [List.append_nil]
  | append_singleton idle s ih =>
      obtain ⟨before, last⟩ := List.forall_mem_append.1 nothing
      rw [← List.append_assoc, walk_concat, ih before, Except.bind,
        step_of_none (last s List.mem_cons_self), inside]

theorem walk_idle (nothing : ∀ s ∈ idle, component? s = none) (stretches : List String)
    (n : String) : t.walk (stretches ++ idle ++ [n]) = t.walk (stretches ++ [n]) := by
  induction idle using List.reverseRecOn with
  | nil => rw [List.append_nil]
  | append_singleton idle s ih =>
      obtain ⟨before, last⟩ := List.forall_mem_append.1 nothing
      have skip := step_bind_step (t := t) (last s List.mem_cons_self)
      rw [← ih before, ← List.append_assoc, walk_concat, walk_concat, walk_concat]
      cases t.walk (stretches ++ idle) with
      | error e => rfl
      | ok here => exact skip here n

end Idle

section Join

variable {dir path n : String}

theorem accepts_iff :
    Accepts path ↔ '\x00' ∉ path.toList ∧ path ≠ "" ∧ path.utf8ByteSize < pathLimit := by
  unfold Accepts stretches
  split
  · next nul => simp_all
  · next noNul =>
    split
    · next empty => simp_all
    · next filled =>
      split
      · next long => simp_all
      · next short => simp_all

theorem walk_join_tidy (absolute : isAbsolute dir) (name : IsName n) :
    t.walk (split (join (tidy dir) n)) = t.walk (split (join dir n)) := by
  obtain ⟨idle, nothing, body⟩ := Path.exists_trunk_join_eq absolute name
  rw [Path.split_join_tidy dir name, Path.split_join_of_isAbsolute absolute name, body,
    ← List.cons_append, ← List.cons_append, ← List.cons_append]
  exact (walk_idle nothing ("" :: trunk dir) n).symm

/-- What leads nowhere makes a path longer, and is harmless but for that. -/
theorem accepts_join_iff (absolute : isAbsolute dir) (name : IsName n) :
    Accepts (join dir n) ↔
      Accepts (join (tidy dir) n) ∧ (join dir n).utf8ByteSize < pathLimit := by
  obtain ⟨idle, nothing, body⟩ := Path.exists_trunk_join_eq absolute name
  have shorter := Path.utf8ByteSize_join_tidy_le absolute name
  have plain : ∀ s ∈ idle, '\x00' ∉ s.toList := by
    intro s member
    rcases Path.component?_eq_none_iff.1 (nothing s member) with rfl | rfl <;> decide
  have nul : '\x00' ∈ (join dir n).toList ↔ '\x00' ∈ (join (tidy dir) n).toList := by
    rw [Path.mem_toList_iff (by decide), Path.mem_toList_iff (by decide),
      Path.split_join_of_isAbsolute absolute name, body, Path.split_join_tidy dir name]
    constructor
    · rintro ⟨s, member, nul⟩
      have other : s ∉ idle := fun idler => plain s idler nul
      exact ⟨s, by simpa [other] using member, nul⟩
    · rintro ⟨s, member, nul⟩
      refine ⟨s, ?_, nul⟩
      rw [List.mem_cons, List.mem_append] at member ⊢
      exact member.imp_right (Or.imp_left (List.mem_append_left idle))
  have filled := Path.ne_empty_of_isAbsolute (Path.isAbsolute_join absolute n)
  have filled' := Path.ne_empty_of_isAbsolute (Path.isAbsolute_join (Path.isAbsolute_tidy dir) n)
  rw [accepts_iff, accepts_iff, nul]
  constructor
  · rintro ⟨noNul, -, short⟩
    exact ⟨⟨noNul, filled', by omega⟩, short⟩
  · rintro ⟨⟨noNul, -⟩, short⟩
    exact ⟨noNul, filled, short⟩

theorem stat_congr {other : String} (accepted : Accepts path) (accepted' : Accepts other)
    (same : t.walk (split path) = t.walk (split other)) : t.stat path = t.stat other := by
  unfold stat
  rw [show stretches path = _ from accepted, show stretches other = _ from accepted']
  simp only [bind, Except.bind, same]

theorem stat_join_tidy (absolute : isAbsolute dir) (name : IsName n)
    (accepted : Accepts (join dir n)) : t.stat (join (tidy dir) n) = t.stat (join dir n) :=
  stat_congr ((accepts_join_iff absolute name).1 accepted).1 accepted (walk_join_tidy absolute name)

theorem readText_join_tidy (absolute : isAbsolute dir) (name : IsName n)
    (accepted : Accepts (join dir n)) :
    t.readText (join (tidy dir) n) = t.readText (join dir n) := by
  unfold readText read
  rw [stat_join_tidy absolute name accepted]

theorem isFile_iff :
    t.isFile path ↔ ∃ here content mode, t.stat path = .ok (here, .file content mode) := by
  unfold isFile
  split
  · next here content mode found => simp [found]
  · next other => simpa using other

theorem accepts_of_isFile (file : t.isFile path) : Accepts path := by
  obtain ⟨here, content, mode, found⟩ := isFile_iff.1 file
  exact (stat_eq_ok_iff.1 found).1

/-- A file below a directory is found exactly if it is found below the tidy path and its path is not
too long. -/
theorem isFile_join_iff (absolute : isAbsolute dir) (name : IsName n) :
    t.isFile (join dir n) ↔
      t.isFile (join (tidy dir) n) ∧ (join dir n).utf8ByteSize < pathLimit := by
  have kept (accepted : Accepts (join dir n)) :
      t.isFile (join (tidy dir) n) = t.isFile (join dir n) := by
    unfold isFile
    rw [stat_join_tidy absolute name accepted]
  constructor
  · intro file
    have accepted := accepts_of_isFile file
    exact ⟨(kept accepted).trans file, ((accepts_join_iff absolute name).1 accepted).2⟩
  · rintro ⟨file, short⟩
    have accepted := (accepts_join_iff absolute name).2 ⟨accepts_of_isFile file, short⟩
    exact (kept accepted).symm.trans file

theorem isFile_of_long (name : IsName n)
    (long : pathLimit ≤ dir.utf8ByteSize + n.utf8ByteSize) : t.isFile (join dir n) = false := by
  refine Bool.eq_false_iff.2 fun file => ?_
  obtain ⟨-, -, short⟩ := accepts_iff.1 (accepts_of_isFile file)
  have size := Path.le_utf8ByteSize_join dir name
  omega

end Join

end FileTree

end Scaffold
