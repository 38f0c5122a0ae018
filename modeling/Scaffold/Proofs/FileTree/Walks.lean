import Scaffold.Emit.Write
import Scaffold.Proofs.FileTree.Alters

/-!
What paths lead to, however they are written. A walk that has come to its end once ends there in
every tree that has grown from that one. Making directories and storing a file along any path add
directories, and write one file where the path then leads.
-/

namespace Scaffold

open Scaffold.Path (IsName split)
open Text.Utf8 (Bytes)

namespace FileTree

variable {t u : FileTree} {path : String} {here there : Location} {e : Entry}

section Steps

variable {stretch : String} {stretches names : List String}

theorem directory_of_step (stepped : t.step here stretch = .ok there) :
    t.get? here = some .directory := by
  unfold step at stepped
  split at stepped
  · cases stepped
  · cases stepped
  · assumption

theorem step_of_within (within : t.Within u) (stepped : t.step here stretch = .ok there) :
    u.step here stretch = .ok there := by
  have before := directory_of_step stepped
  have after := within.directory before
  unfold step at stepped ⊢
  rw [before] at stepped
  rw [after]
  exact stepped

theorem eq_of_step_isName (name : IsName stretch) (stepped : t.step here stretch = .ok there) :
    there = here ++ [stretch] := by
  have inside := directory_of_step stepped
  rw [step_of_isName name, inside] at stepped
  simp only at stepped
  split at stepped
  · cases stepped
  · exact (Except.ok.inj stepped).symm

theorem walk_concat_eq_ok_iff :
    t.walk (stretches ++ [stretch]) = .ok there ↔
      ∃ here, t.walk stretches = .ok here ∧ t.step here stretch = .ok there := by
  rw [walk_concat]
  cases t.walk stretches <;> simp [Except.bind]

theorem walk_of_within (within : t.Within u) (walked : t.walk stretches = .ok here) :
    u.walk stretches = .ok here := by
  induction stretches using List.reverseRecOn generalizing here with
  | nil => exact walked
  | append_singleton stretches stretch ih =>
      obtain ⟨before, walked, stepped⟩ := walk_concat_eq_ok_iff.1 walked
      exact walk_concat_eq_ok_iff.2 ⟨before, ih walked, step_of_within within stepped⟩

/-- From where other stretches lead, names lead straight down. -/
theorem walk_append_names (named : ∀ n ∈ names, IsName n)
    (walked : t.walk (stretches ++ names) = .ok there) :
    ∃ here, t.walk stretches = .ok here ∧ there = here ++ names := by
  induction names using List.reverseRecOn generalizing there with
  | nil => exact ⟨there, by simpa using walked, by simp⟩
  | append_singleton names n ih =>
      obtain ⟨named, name⟩ := Path.named_concat_iff.1 named
      rw [← List.append_assoc] at walked
      obtain ⟨before, walked, stepped⟩ := walk_concat_eq_ok_iff.1 walked
      obtain ⟨here, start, rfl⟩ := ih named walked
      exact ⟨here, start, by rw [eq_of_step_isName name stepped, List.append_assoc]⟩

end Steps

theorem stat_eq_ok_iff :
    t.stat path = .ok (here, e) ↔
      Accepts path ∧ t.walk (split path) = .ok here ∧ t.get? here = some e := by
  unfold stat
  cases taken : stretches path with
  | error fault => simp [Accepts, taken, bind, Except.bind]
  | ok all =>
      have accepted := accepts_of_stretches taken
      obtain rfl : all = split path := Except.ok.inj (taken.symm.trans accepted)
      rw [and_iff_right accepted]
      simp only [bind, Except.bind]
      cases walked : t.walk (split path) with
      | error fault => simp
      | ok there =>
          simp only
          cases present : t.get? there with
          | none =>
              refine iff_of_false (by simp [throw, throwThe, MonadExceptOf.throw]) ?_
              rintro ⟨same, found⟩
              cases same
              cases present.symm.trans found
          | some entry =>
              simp only [pure, Except.pure, Except.ok.injEq, Prod.mk.injEq]
              constructor
              · rintro ⟨rfl, rfl⟩
                exact ⟨rfl, present⟩
              · rintro ⟨rfl, found⟩
                exact ⟨rfl, Option.some.inj (present.symm.trans found)⟩

theorem exists_stat_of_tryExists (there : t.tryExists path = .ok true) :
    ∃ here e, t.stat path = .ok (here, e) := by
  unfold tryExists at there
  cases found : t.stat path with
  | error fault =>
      rw [found] at there
      cases fault <;> cases there
  | ok result => exact ⟨result.1, result.2, rfl⟩

section Target

variable {name : String} {slashes : Bool}

theorem kept_eq_nil_or_concat (all : List String) :
    (all.reverse.dropWhile (· == "")).reverse = [] ∨
      ∃ before last rest, (all.reverse.dropWhile (· == "")).reverse = before ++ [last] ∧
        last ≠ "" ∧ all = before ++ last :: rest := by
  have split := List.takeWhile_append_dropWhile (p := (· == "")) (l := all.reverse)
  cases kept : all.reverse.dropWhile (· == "") with
  | nil => exact .inl rfl
  | cons last before =>
      have filled : last ≠ "" := by
        have first := List.head?_dropWhile_not (· == "") all.reverse
        simpa [kept] using first
      refine .inr ⟨before.reverse, last, (all.reverse.takeWhile (· == "")).reverse, by simp,
        filled, ?_⟩
      simpa [kept] using (congrArg List.reverse split).symm

theorem target_eq_ok (aimed : t.target path = .ok (here, some name, slashes)) :
    Accepts path ∧ t.get? here = some .directory ∧
      (slashes = false → t.walk (split path) = .ok (here ++ [name])) := by
  unfold target at aimed
  cases taken : stretches path with
  | error fault => simp [taken, bind, Except.bind] at aimed
  | ok all =>
      have accepted := accepts_of_stretches taken
      obtain rfl : all = split path := Except.ok.inj (taken.symm.trans accepted)
      rw [taken] at aimed
      simp only [bind, Except.bind] at aimed
      rcases kept_eq_nil_or_concat (split path) with none | ⟨before, last, rest, kept, filled, all⟩
      · simp [none, walk, pure, Except.pure] at aimed
      · simp only [kept, List.dropLast_concat, List.getLast?_concat] at aimed
        cases walked : t.walk before with
        | error fault => simp [walked] at aimed
        | ok there =>
            simp only [walked] at aimed
            split at aimed
            · cases stepped : t.step there last <;> simp [stepped, pure, Except.pure] at aimed
            · next dots =>
              cases stepped : t.step there last with
              | error fault => simp [stepped] at aimed
              | ok next =>
                  have member : last ∈ split path := by simp [all]
                  have isName : IsName last := by
                    refine ⟨filled, ?_, ?_, Path.slash_not_mem_of_mem_split member⟩ <;> simp_all
                  obtain rfl := eq_of_step_isName isName stepped
                  simp only [stepped, pure, Except.pure, Except.ok.injEq, Prod.mk.injEq,
                    List.getLast?_concat, Option.some.injEq] at aimed
                  obtain ⟨rfl, rfl, rfl⟩ := aimed
                  refine ⟨accepted, directory_of_step stepped, ?_⟩
                  intro whole
                  obtain rfl : rest = [] := by simpa [all] using whole
                  rw [all]
                  exact walk_concat_eq_ok_iff.2 ⟨_, walked, stepped⟩

end Target

section Operations

variable {written : Location → Prop} {content : Bytes} {mode : Option UInt32}

theorem makeDirectory_alters (made : t.makeDirectory path = .ok u) :
    t.Alters (fun _ => True) written u := by
  unfold makeDirectory at made
  cases aimed : t.target path with
  | error fault => simp [aimed, bind, Except.bind] at made
  | ok result =>
      obtain ⟨here, name, slashes⟩ := result
      simp only [aimed, bind, Except.bind] at made
      cases name with
      | none => cases made
      | some name =>
          simp only at made
          split at made
          · cases made
          · next absent =>
            cases made
            exact .make .refl (target_eq_ok aimed).2.1 absent trivial

theorem makeNested_alters (t : FileTree) (paths : List String) :
    t.Alters (fun _ => True) written (t.makeNested paths).1 := by
  induction paths generalizing t with
  | nil => exact .refl
  | cons path outer ih =>
      rw [makeNested]
      split
      · exact .refl
      · cases made : t.makeDirectory path with
        | ok u => exact makeDirectory_alters made
        | error fault =>
            have stays : t.Alters (fun _ => True) written
                (if t.isDirectory path then (t, Except.ok ()) else (t, .error fault)).1 := by
              split <;> exact .refl
            cases fault with
            | notFound =>
                simp only
                have around := ih t
                cases nested : t.makeNested outer with
                | mk u result =>
                    rw [nested] at around
                    cases result with
                    | error fault => exact around
                    | ok =>
                        simp only
                        cases again : u.makeDirectory path with
                        | ok v => exact around.trans (makeDirectory_alters again)
                        | error fault =>
                            simp only
                            split <;> exact around
            | _ => exact stays

theorem makeDirectories_alters (t : FileTree) (path : String) :
    t.Alters (fun _ => True) written (t.makeDirectories path).1 :=
  makeNested_alters t _

theorem write_eq_ok (wrote : t.write path content = .ok u) :
    Accepts path ∧ ∃ here name m, t.walk (split path) = .ok (here ++ [name]) ∧
      t.get? here = some .directory ∧ t.get? (here ++ [name]) ≠ some .directory ∧
      u = t.set (here ++ [name]) (.file content m) := by
  unfold write at wrote
  cases aimed : t.target path with
  | error fault => simp [aimed, bind, Except.bind] at wrote
  | ok result =>
      obtain ⟨here, name, slashes⟩ := result
      simp only [aimed, bind, Except.bind] at wrote
      cases name with
      | none => cases wrote
      | some name =>
          obtain ⟨accepted, inside, leads⟩ := target_eq_ok aimed
          cases slashes with
          | true => cases wrote
          | false =>
              refine ⟨accepted, here, name, ?_⟩
              simp only [Bool.false_eq_true, if_false] at wrote
              split at wrote
              · cases wrote
              · next present =>
                cases wrote
                exact ⟨_, leads rfl, inside, by simp [present], rfl⟩
              · next absent =>
                cases wrote
                exact ⟨_, leads rfl, inside, by simp [absent], rfl⟩

theorem read_of_write (wrote : t.write path content = .ok u) : u.read path = .ok content := by
  obtain ⟨accepted, here, name, m, leads, -, free, rfl⟩ := write_eq_ok wrote
  have found : (t.set (here ++ [name]) (.file content m)).stat path =
      .ok (here ++ [name], .file content m) :=
    stat_eq_ok_iff.2 ⟨accepted, walk_of_within (.set_file (by simp) free) leads,
      get?_set_self (by simp)⟩
  unfold read
  rw [found]
  rfl

/-- Storing a file makes directories, and then either fails or writes the file where its path leads
by then. -/
theorem store_cases (t : FileTree) (path : String) (content : Bytes) (mode : Option UInt32) :
    let around := (t.makeDirectories ((Path.parent? path).getD "")).1
    (∃ fault, t.store path content mode = (around, .error fault)) ∨
      ∃ here name m, Accepts path ∧ around.walk (split path) = .ok (here ++ [name]) ∧
        around.get? here = some .directory ∧ around.get? (here ++ [name]) ≠ some .directory ∧
        t.store path content mode =
          (around.set (here ++ [name]) (.file content m), .ok ()) := by
  unfold store
  cases t.makeDirectories ((Path.parent? path).getD "") with
  | mk around result =>
      cases result with
      | error fault => exact .inl ⟨fault, rfl⟩
      | ok =>
          simp only
          cases wrote : around.write path content with
          | error fault => exact .inl ⟨fault, rfl⟩
          | ok u =>
              obtain ⟨accepted, here, name, m, leads, inside, free, rfl⟩ := write_eq_ok wrote
              refine .inr ⟨here, name, ?_⟩
              cases mode with
              | none => exact ⟨m, accepted, leads, inside, free, rfl⟩
              | some mode =>
                  have found : (around.set (here ++ [name]) (.file content m)).stat path =
                      .ok (here ++ [name], .file content m) :=
                    stat_eq_ok_iff.2 ⟨accepted, walk_of_within (.set_file (by simp) free) leads,
                      get?_set_self (by simp)⟩
                  refine ⟨mode.toNat % 0o10000, accepted, leads, inside, free, ?_⟩
                  simp only [setMode, found, bind, Except.bind, pure, Except.pure, set_set]

theorem store_alters (t : FileTree) (path : String) (content : Bytes) (mode : Option UInt32) :
    t.Alters (fun _ => True)
      (fun l => (t.store path content mode).1.walk (split path) = .ok l)
      (t.store path content mode).1 := by
  rcases store_cases t path content mode with
    ⟨fault, failed⟩ | ⟨here, name, m, -, leads, inside, free, stored⟩
  · rw [failed]
    exact makeDirectories_alters t _
  · rw [stored]
    exact (makeDirectories_alters t _).write inside free
      (walk_of_within (.set_file (by simp) free) leads)

theorem stat_of_store (stored : t.store path content mode = (u, .ok ())) :
    ∃ here m, u.stat path = .ok (here, .file content m) := by
  rcases store_cases t path content mode with
    ⟨fault, failed⟩ | ⟨here, name, m, accepted, leads, -, free, written⟩
  · cases failed.symm.trans stored
  · cases written.symm.trans stored
    exact ⟨_, m, stat_eq_ok_iff.2 ⟨accepted, walk_of_within (.set_file (by simp) free) leads,
      get?_set_self (by simp)⟩⟩

end Operations

end FileTree

end Scaffold
