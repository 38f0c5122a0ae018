import Scaffold.Proofs.FileTree.Alters

/-!
Making directories along a normal path. They are made from the root on, until one cannot be made; then
something is in the way for good.
-/

namespace Scaffold

open Scaffold.Path (IsName IsNormal spell)

namespace FileTree

variable {t u : FileTree} {rooted : Bool} {names : Location} {n : String}

/-- Makes a directory at a location, unless there is one. -/
def ensure (t : FileTree) (names : Location) : FileTree × Except FileError Unit :=
  match t.look names with
  | .error e => (t, .error e)
  | .ok none => (t.set names .directory, .ok ())
  | .ok (some .directory) => (t, .ok ())
  | .ok (some (.file _ _)) => (t, .error .alreadyExists)

section Directories

theorem makeNested_of_makeDirectory {path : String} {outer : List String} (filled : path ≠ "")
    (result : t.makeDirectory path ≠ .error .notFound) :
    t.makeNested (path :: outer) =
      match t.makeDirectory path with
      | .ok u => (u, .ok ())
      | .error e => if t.isDirectory path then (t, .ok ()) else (t, .error e) := by
  rw [makeNested, if_neg filled]
  cases made : t.makeDirectory path with
  | ok u => rfl
  | error e =>
      cases e with
      | notFound => exact absurd made result
      | _ => rfl

/-- What is made of a path itself, once the directory around it is there. -/
theorem attempt_eq_ensure (named : ∀ m ∈ names ++ [n], IsName m)
    (accepted : Accepts (spell rooted (names ++ [n]))) :
    (match t.makeDirectory (spell rooted (names ++ [n])) with
      | .ok u => (u, .ok ())
      | .error e =>
          if t.isDirectory (spell rooted (names ++ [n])) then (t, .ok ()) else (t, .error e)) =
      t.ensure (names ++ [n]) := by
  have there := isDirectory_spell_iff (t := t) named accepted
  rw [makeDirectory_spell named accepted]
  unfold ensure
  cases looked : t.look (names ++ [n]) with
  | error e =>
      rw [looked] at there
      simp [Except.bind, there]
  | ok seen =>
      rw [looked] at there
      cases seen with
      | none => rfl
      | some entry => cases entry <;> simp [Except.bind, there]

theorem makeDirectories_spell_nil (t : FileTree) (rooted : Bool) :
    t.makeDirectories (spell rooted []) = (t, .ok ()) := by
  unfold makeDirectories
  rw [Path.ancestors_spell_nil]
  cases rooted <;> rfl

theorem makeDirectories_spell_concat (named : ∀ m ∈ names ++ [n], IsName m)
    (accepted : Accepts (spell rooted (names ++ [n]))) :
    t.makeDirectories (spell rooted (names ++ [n])) =
      if t.look (names ++ [n]) = .error .notFound then
        match t.makeDirectories (spell rooted names) with
        | (u, .error e) => (u, .error e)
        | (u, .ok ()) => u.ensure (names ++ [n])
      else t.ensure (names ++ [n]) := by
  have filled : spell rooted (names ++ [n]) ≠ "" := Path.spell_ne_empty named (by simp)
  unfold makeDirectories
  rw [Path.ancestors_spell_concat named]
  -- the directory around is turned to only where the last name itself cannot be reached
  split
  · next missing =>
    have made : t.makeDirectory (spell rooted (names ++ [n])) = .error .notFound := by
      rw [makeDirectory_spell named accepted, missing]
      rfl
    rw [makeNested, if_neg filled, made]
    cases t.makeNested (Path.ancestors (spell rooted names)) with
    | mk u result =>
        cases result with
        | error e => rfl
        | ok => exact attempt_eq_ensure named accepted
  · next found =>
    have made : t.makeDirectory (spell rooted (names ++ [n])) ≠ .error .notFound := by
      rw [makeDirectory_spell named accepted]
      cases looked : t.look (names ++ [n]) with
      | error e => simpa [Except.bind, looked] using found
      | ok seen => cases seen <;> simp [Except.bind]
    rw [makeNested_of_makeDirectory filled made, attempt_eq_ensure named accepted]

section Ensure

variable {made written : Location → Prop} {e : FileError}

theorem directory_of_look_concat {seen : Option Entry} (named : ∀ m ∈ names ++ [n], IsName m)
    (looked : t.look (names ++ [n]) = .ok seen) : t.get? names = some .directory :=
  (eq_get?_of_look ((look_concat_eq_ok_iff named).1 looked).1).symm

theorem look_set {entry : Entry} {seen : Option Entry} (named : ∀ m ∈ names ++ [n], IsName m)
    (looked : t.look (names ++ [n]) = .ok seen) :
    (t.set (names ++ [n]) entry).look (names ++ [n]) = .ok (some entry) := by
  obtain ⟨before, short, -⟩ := (look_concat_eq_ok_iff named).1 looked
  have same : t.look names = (t.set (names ++ [n]) entry).look names := by
    refine look_congr (Path.named_concat_iff.1 named).1 fun here first => ?_
    rw [get?_set_of_ne (ne_concat_of_isPrefix first)]
  exact (look_concat_eq_ok_iff named).2
    ⟨same ▸ before, short, (get?_set_self (by simp)).symm⟩

theorem alters_ensure (named : ∀ m ∈ names ++ [n], IsName m) :
    t.Alters (· = names ++ [n]) (fun _ => False) (t.ensure (names ++ [n])).1 := by
  unfold ensure
  cases looked : t.look (names ++ [n]) with
  | error e => exact .refl
  | ok seen =>
      rcases seen with - | - | -
      · exact .make .refl (directory_of_look_concat named looked) (eq_get?_of_look looked).symm rfl
      · exact .refl
      · exact .refl

theorem look_of_ensure_eq_ok (named : ∀ m ∈ names ++ [n], IsName m)
    (ensured : t.ensure (names ++ [n]) = (u, .ok ())) :
    u.look (names ++ [n]) = .ok (some .directory) := by
  unfold ensure at ensured
  split at ensured
  · cases ensured
  · next looked =>
    cases ensured
    exact look_set named looked
  · next looked =>
    cases ensured
    exact looked
  · cases ensured

theorem blocked_of_ensure_eq_error (reached : t.look (names ++ [n]) ≠ .error .notFound)
    (ensured : t.ensure (names ++ [n]) = (u, .error e)) :
    u.Barred (names ++ [n]) ∨
      ∃ content mode, u.look (names ++ [n]) = .ok (some (.file content mode)) := by
  unfold ensure at ensured
  split at ensured
  · next looked =>
    cases ensured
    exact .inl ⟨e, fun missing => reached (missing ▸ looked), looked⟩
  · cases ensured
  · cases ensured
  · next looked =>
    cases ensured
    exact .inr ⟨_, _, looked⟩

end Ensure

theorem alters_makeDirectories_spell (named : ∀ n ∈ names, IsName n)
    (accepted : spell rooted names ≠ "" → Accepts (spell rooted names)) (t : FileTree) :
    t.Alters (· <+: names) (fun _ => False) (t.makeDirectories (spell rooted names)).1 := by
  induction names using List.reverseRecOn with
  | nil =>
      rw [makeDirectories_spell_nil]
      exact .refl
  | append_singleton names n ih =>
      have before := (Path.named_concat_iff.1 named).1
      have taken := accepted (Path.spell_ne_empty named (by simp))
      have last (v : FileTree) :
          v.Alters (· <+: names ++ [n]) (fun _ => False) (v.ensure (names ++ [n])).1 :=
        (alters_ensure named).mono (fun _ same => same ▸ List.prefix_rfl) fun _ never => never
      have around := (ih before (accepts_spell_of_concat taken)).mono
        (fun _ first => first.trans (List.prefix_append names [n])) fun _ never => never
      rw [makeDirectories_spell_concat named taken]
      split
      · cases made : t.makeDirectories (spell rooted names) with
        | mk u result =>
            rw [made] at around
            cases result with
            | error e => exact around
            | ok => exact around.trans (last u)
      · exact last t

theorem look_of_makeDirectories_eq_ok (named : ∀ n ∈ names, IsName n)
    (accepted : spell rooted names ≠ "" → Accepts (spell rooted names))
    (made : t.makeDirectories (spell rooted names) = (u, .ok ())) :
    u.look names = .ok (some .directory) := by
  rcases List.eq_nil_or_concat' names with rfl | ⟨names, n, rfl⟩
  · rfl
  · rw [makeDirectories_spell_concat named (accepted (Path.spell_ne_empty named (by simp)))]
      at made
    split at made
    · cases around : t.makeDirectories (spell rooted names) with
      | mk v result =>
          rw [around] at made
          cases result with
          | error e => cases made
          | ok => exact look_of_ensure_eq_ok named made
    · exact look_of_ensure_eq_ok named made

/-- Where directories cannot be made, something is in the way afterwards, or a file is there. -/
theorem blocked_of_makeDirectories_eq_error {e : FileError} (named : ∀ n ∈ names, IsName n)
    (accepted : spell rooted names ≠ "" → Accepts (spell rooted names))
    (failed : t.makeDirectories (spell rooted names) = (u, .error e)) :
    u.Barred names ∨ ∃ content mode, u.look names = .ok (some (.file content mode)) := by
  -- from the end of the path: what blocks a directory around bars all that lies within
  induction names using List.reverseRecOn generalizing u e with
  | nil =>
      rw [makeDirectories_spell_nil] at failed
      cases failed
  | append_singleton names n ih =>
      have before := (Path.named_concat_iff.1 named).1
      have taken := accepted (Path.spell_ne_empty named (by simp))
      have around := accepts_spell_of_concat taken
      rw [makeDirectories_spell_concat named taken] at failed
      split at failed
      · cases made : t.makeDirectories (spell rooted names) with
        | mk v result =>
            rw [made] at failed
            cases result with
            | error e' =>
                cases failed
                refine .inl ((barred_concat_iff named).2 ?_)
                rcases ih before around made with blocked | file
                · exact .inl blocked
                · exact .inr (.inl file)
            | ok =>
                refine blocked_of_ensure_eq_error (fun missing => ?_) failed
                rw [look_concat named, look_of_makeDirectories_eq_ok before around made] at missing
                simp only [Except.bind] at missing
                split at missing <;> cases missing
      · next reached => exact blocked_of_ensure_eq_error reached failed

theorem makeDirectories_of_look (named : ∀ n ∈ names, IsName n)
    (accepted : spell rooted names ≠ "" → Accepts (spell rooted names))
    (looked : t.look names = .ok (some .directory)) :
    t.makeDirectories (spell rooted names) = (t, .ok ()) := by
  rcases List.eq_nil_or_concat' names with rfl | ⟨names, n, rfl⟩
  · exact makeDirectories_spell_nil t rooted
  · rw [makeDirectories_spell_concat named (accepted (Path.spell_ne_empty named (by simp))),
      if_neg (by simp [looked]), ensure, looked]

/-- What bars the way to a location is a name that is too long, or a file. -/
theorem long_or_file_of_barred (named : ∀ n ∈ names, IsName n) (blocked : t.Barred names) :
    (∃ n ∈ names, nameLimit < n.utf8ByteSize) ∨
      ∃ here content mode, here <+: names ∧ here ≠ names ∧
        t.get? here = some (.file content mode) := by
  induction names using List.reverseRecOn with
  | nil =>
      obtain ⟨e, -, looked⟩ := blocked
      cases looked
  | append_singleton names n ih =>
      rcases (barred_concat_iff named).1 blocked with blocked | ⟨content, mode, looked⟩ | ⟨-, long⟩
      · rcases ih (Path.named_concat_iff.1 named).1 blocked with
          ⟨m, member, long⟩ | ⟨here, content, mode, first, -, present⟩
        · exact .inl ⟨m, List.mem_append_left _ member, long⟩
        · exact .inr ⟨here, content, mode, first.trans (List.prefix_append _ _),
            ne_concat_of_isPrefix first, present⟩
      · exact .inr ⟨names, content, mode, List.prefix_append _ _, by simp,
          (eq_get?_of_look looked).symm⟩
      · exact .inl ⟨n, by simp, long⟩

theorem ensure_eq_ok (reached : ¬t.Barred names) (found : t.look names ≠ .error .notFound)
    (clear : ∀ content mode, t.get? names ≠ some (.file content mode)) :
    (t.ensure names).2 = .ok () := by
  unfold ensure
  split
  · next e looked =>
    exact absurd ⟨e, fun missing => found (missing ▸ looked), looked⟩ reached
  · rfl
  · rfl
  · next content mode looked => exact absurd (eq_get?_of_look looked).symm (clear content mode)

/-- Directories can be made along a path of short names on which there is no file. -/
theorem makeDirectories_eq_ok (named : ∀ n ∈ names, IsName n)
    (accepted : spell rooted names ≠ "" → Accepts (spell rooted names))
    (short : ∀ n ∈ names, n.utf8ByteSize ≤ nameLimit)
    (clear : ∀ here content mode, here <+: names → t.get? here ≠ some (.file content mode)) :
    (t.makeDirectories (spell rooted names)).2 = .ok () := by
  induction names using List.reverseRecOn with
  | nil => rw [makeDirectories_spell_nil]
  | append_singleton names n ih =>
      have before := (Path.named_concat_iff.1 named).1
      have taken := accepted (Path.spell_ne_empty named (by simp))
      have around := accepts_spell_of_concat taken
      obtain ⟨shorts, last⟩ : (∀ m ∈ names, _) ∧ n.utf8ByteSize ≤ nameLimit := by
        simpa [or_imp, forall_and] using short
      rw [makeDirectories_spell_concat named taken]
      split
      · have made := ih before around shorts fun here content mode first =>
          clear here content mode (first.trans (List.prefix_append _ _))
        have alters := alters_makeDirectories_spell before around t
        cases result : t.makeDirectories (spell rooted names) with
        | mk u outcome =>
            rw [result] at made alters
            cases made
            have looked : u.look (names ++ [n]) = .ok (u.get? (names ++ [n])) :=
              (look_concat_eq_ok_iff named).2
                ⟨look_of_makeDirectories_eq_ok before around result, last, rfl⟩
            refine ensure_eq_ok ?_ (by simp [looked]) fun content mode present => ?_
            · rintro ⟨e, -, blocked⟩
              cases blocked.symm.trans looked
            · exact clear _ content mode List.prefix_rfl
                (alters.file_of_not_written id present)
      · next found =>
        refine ensure_eq_ok (fun blocked => ?_) found fun content mode =>
          clear _ content mode List.prefix_rfl
        rcases long_or_file_of_barred named blocked with
          ⟨m, member, long⟩ | ⟨here, content, mode, first, -, present⟩
        · exact absurd (short m member) (by omega)
        · exact clear here content mode first present

end Directories

section Paths

variable {path : String} (normal : IsNormal path)

theorem makeDirectories_of_refused (filled : path ≠ "") (refused : ¬Accepts path) :
    ∃ e, t.makeDirectories path = (t, .error e) := by
  obtain ⟨outer, around⟩ : ∃ outer, Path.ancestors path = path :: outer := by
    unfold Path.ancestors
    cases path.length <;> exact ⟨_, rfl⟩
  obtain ⟨e, other, failed⟩ : ∃ e, e ≠ .notFound ∧ stretches path = .error e := by
    cases taken : stretches path with
    | ok all => exact absurd (accepts_of_stretches taken) refused
    | error e => exact ⟨e, fun missing => stretches_ne_notFound filled (missing ▸ taken), rfl⟩
  have made : t.makeDirectory path = .error e := by
    unfold makeDirectory target
    rw [failed]
    rfl
  have absent : t.isDirectory path = false := by
    unfold isDirectory stat
    rw [failed]
    rfl
  refine ⟨e, ?_⟩
  unfold makeDirectories
  rw [around, makeNested_of_makeDirectory filled (by simpa [made] using other), made, absent]
  rfl

include normal

theorem alters_makeDirectories (t : FileTree) :
    t.Alters (· <+: Path.location path) (fun _ => False) (t.makeDirectories path).1 := by
  by_cases accepted : path ≠ "" → Accepts path
  · obtain ⟨rooted, names, named, rfl⟩ := normal.exists_spell
    rw [Path.location_spell named]
    exact alters_makeDirectories_spell named accepted t
  · obtain ⟨filled, refused⟩ := Classical.not_imp.1 accepted
    obtain ⟨e, failed⟩ := makeDirectories_of_refused (t := t) filled refused
    rw [failed]
    exact .refl

theorem makeDirectories_again (made : (t.makeDirectories path).2 = .ok ())
    (within : (t.makeDirectories path).1.Within u) : u.makeDirectories path = (u, .ok ()) := by
  have accepted : path ≠ "" → Accepts path := by
    intro filled
    by_contra refused
    obtain ⟨e, failed⟩ := makeDirectories_of_refused (t := t) filled refused
    rw [failed] at made
    cases made
  obtain ⟨rooted, names, named, rfl⟩ := normal.exists_spell
  exact makeDirectories_of_look named accepted (within.look_directory named
    (look_of_makeDirectories_eq_ok named accepted (Prod.ext rfl made)))

end Paths

end FileTree

end Scaffold
