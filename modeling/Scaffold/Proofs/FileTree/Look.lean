import Scaffold.FileTree
import Scaffold.Proofs.Path.Normal

/-!
What normal paths lead to. The operations of a file tree walk along the stretches of a path; for a
normal path all that they find is what a look at its names finds.
-/

namespace Scaffold

open Scaffold.Path (IsName spell split)
open Text.Utf8 (Bytes)

namespace FileTree

variable {t u : FileTree}

section Entries

variable {location other : Location} {e : Entry}

theorem get?_of_ne_nil (filled : location ≠ []) : t.get? location = t.entries.lookup location := by
  cases location with
  | nil => exact absurd rfl filled
  | cons => rfl

theorem lookup_filter_ne (apart : other ≠ location) (entries : List (Location × Entry)) :
    (entries.filter (·.1 != location)).lookup other = entries.lookup other := by
  induction entries with
  | nil => rfl
  | cons entry entries ih =>
      obtain ⟨key, e⟩ := entry
      by_cases same : key = location
      · have missed : (other == key) = false := beq_eq_false_iff_ne.2 (same ▸ apart)
        rw [List.filter_cons_of_neg (by simpa using same), List.lookup_cons, missed, ih]
      · rw [List.filter_cons_of_pos (by simpa using same), List.lookup_cons, List.lookup_cons, ih]

@[simp] theorem get?_set_self (filled : location ≠ []) : (t.set location e).get? location = some e := by
  simp [get?_of_ne_nil filled, set]

theorem get?_set_of_ne (apart : other ≠ location) :
    (t.set location e).get? other = t.get? other := by
  cases other with
  | nil => rfl
  | cons n names =>
      have missed : ((n :: names) == location) = false := beq_eq_false_iff_ne.2 apart
      simp [get?, set, List.lookup_cons, missed, lookup_filter_ne apart]

theorem set_set (t : FileTree) (location : Location) (first second : Entry) :
    (t.set location first).set location second = t.set location second := by
  simp [set]

end Entries

section Look

variable {names : Location} {n : String} {seen : Option Entry} {e : FileError}

/-- What a walk along some names finds at its end. -/
def look (t : FileTree) (names : Location) : Except FileError (Option Entry) :=
  (t.walk names).map fun _ => t.get? names

theorem step_of_isName (name : IsName n) (here : Location) :
    t.step here n =
      match t.get? here with
      | none => .error .notFound
      | some (.file _ _) => .error .notDirectory
      | some .directory =>
          if nameLimit < n.utf8ByteSize then .error .nameTooLong else .ok (here ++ [n]) := by
  obtain ⟨filled, noDot, noDots, -⟩ := name
  unfold step
  split <;> simp_all

theorem walk_concat (t : FileTree) (names : Location) (n : String) :
    t.walk (names ++ [n]) = (t.walk names).bind (t.step · n) := by
  rw [walk, List.foldlM_append]
  simp only [List.foldlM_cons, List.foldlM_nil, bind_pure]
  rfl

theorem eq_of_walk_eq_ok {here : Location} (named : ∀ n ∈ names, IsName n)
    (walked : t.walk names = .ok here) : here = names := by
  induction names using List.reverseRecOn generalizing here with
  | nil =>
      cases walked
      rfl
  | append_singleton names n ih =>
      obtain ⟨named, name⟩ := Path.named_concat_iff.1 named
      rw [walk_concat] at walked
      cases before : t.walk names with
      | error e =>
          rw [before] at walked
          cases walked
      | ok there =>
          rw [before, Except.bind, step_of_isName name] at walked
          rw [← ih named before]
          split at walked
          · cases walked
          · cases walked
          · split at walked
            · cases walked
            · cases walked
              rfl

theorem eq_get?_of_look (found : t.look names = .ok seen) : seen = t.get? names := by
  unfold look at found
  cases walked : t.walk names with
  | error e =>
      rw [walked] at found
      cases found
  | ok here =>
      rw [walked] at found
      cases found
      rfl

/-- Only a directory leads on, and only to names that are not too long. -/
theorem look_concat (named : ∀ m ∈ names ++ [n], IsName m) :
    t.look (names ++ [n]) = (t.look names).bind fun
      | none => .error .notFound
      | some (.file _ _) => .error .notDirectory
      | some .directory =>
          if nameLimit < n.utf8ByteSize then .error .nameTooLong
          else .ok (t.get? (names ++ [n])) := by
  obtain ⟨named, name⟩ := Path.named_concat_iff.1 named
  unfold look
  rw [walk_concat]
  cases walked : t.walk names with
  | error e => rfl
  | ok here =>
      obtain rfl := eq_of_walk_eq_ok named walked
      simp only [Except.bind, Except.map, step_of_isName name]
      cases t.get? here with
      | none => rfl
      | some e =>
          cases e with
          | file => rfl
          | directory =>
              by_cases long : nameLimit < n.utf8ByteSize
              · simp only [if_pos long]
              · simp only [if_neg long]

end Look

section Paths

variable {rooted : Bool} {names : Location} {n : String} {content : Bytes}

/-- Whether a file system takes a path at all. -/
def Accepts (path : String) : Prop :=
  stretches path = .ok (split path)

theorem accepts_of_stretches {path : String} {all : List String}
    (taken : stretches path = .ok all) : Accepts path := by
  unfold Accepts
  rw [taken]
  unfold stretches at taken
  split at taken
  · cases taken
  · split at taken
    · cases taken
    · split at taken
      · cases taken
      · exact taken.symm

instance : DecidablePred Accepts :=
  fun _ => inferInstanceAs (Decidable (_ = _))

theorem accepts_of_append {path rest : String} (filled : path ≠ "")
    (accepted : Accepts (path ++ rest)) : Accepts path := by
  unfold Accepts stretches at accepted ⊢
  split at accepted
  · cases accepted
  · next noNul =>
    split at accepted
    · cases accepted
    · split at accepted
      · cases accepted
      · next short =>
        simp only [String.toList_append, List.contains_append, Bool.or_eq_true,
          not_or, String.utf8ByteSize_append] at noNul short
        rw [if_neg noNul.1, if_neg (by simpa using filled), if_neg (by omega)]

theorem accepts_spell_of_concat (accepted : Accepts (spell rooted (names ++ [n])))
    (filled : spell rooted names ≠ "") : Accepts (spell rooted names) := by
  by_cases first : names = []
  · subst first
    cases rooted with
    | true => rfl
    | false => exact absurd rfl filled
  · rw [Path.spell_concat first] at accepted
    exact accepts_of_append filled accepted

theorem walk_split (named : ∀ n ∈ names, IsName n) :
    t.walk (split (spell rooted names)) = t.walk names := by
  by_cases filled : names = []
  · subst filled
    cases rooted <;> rfl
  · rw [Path.split_spell named filled]
    cases rooted <;> rfl

theorem stat_spell (named : ∀ n ∈ names, IsName n)
    (accepted : Accepts (spell rooted names)) :
    t.stat (spell rooted names) = (t.look names).bind fun
      | none => .error .notFound
      | some e => .ok (names, e) := by
  unfold stat look
  rw [show stretches _ = _ from accepted]
  simp only [bind, Except.bind, walk_split named]
  cases walked : t.walk names with
  | error e => rfl
  | ok here =>
      obtain rfl := eq_of_walk_eq_ok named walked
      simp only [Except.map]
      cases t.get? here <;> rfl

theorem tryExists_spell (named : ∀ n ∈ names, IsName n)
    (accepted : Accepts (spell rooted names)) :
    t.tryExists (spell rooted names) =
      match t.look names with
      | .ok seen => .ok seen.isSome
      | .error .notFound => .ok false
      | .error e => .error e := by
  unfold tryExists
  rw [stat_spell named accepted]
  cases t.look names with
  | error e => cases e <;> rfl
  | ok seen => cases seen <;> rfl

theorem stretches_ne_notFound {path : String} (filled : path ≠ "") :
    stretches path ≠ .error .notFound := by
  unfold stretches
  split
  · simp
  · rw [if_neg (by simpa using filled)]
    split <;> simp

theorem exists_stat_eq_error {path : String} (refused : ¬Accepts path) :
    ∃ e, (path ≠ "" → e ≠ .notFound) ∧ ∀ t : FileTree, t.stat path = .error e := by
  cases taken : stretches path with
  | ok all => exact absurd (accepts_of_stretches taken) refused
  | error e =>
      refine ⟨e, ?_, fun t => ?_⟩
      · rintro filled rfl
        exact stretches_ne_notFound filled taken
      · unfold stat
        rw [taken]
        rfl

theorem isDirectory_spell_iff (named : ∀ n ∈ names, IsName n)
    (accepted : Accepts (spell rooted names)) :
    t.isDirectory (spell rooted names) = true ↔ t.look names = .ok (some .directory) := by
  unfold isDirectory
  rw [stat_spell named accepted]
  cases t.look names with
  | error e => simp [Except.bind]
  | ok seen =>
      cases seen with
      | none => simp [Except.bind]
      | some e => cases e <;> simp [Except.bind]

theorem read_spell_eq_ok_iff (named : ∀ n ∈ names, IsName n)
    (accepted : Accepts (spell rooted names)) :
    t.read (spell rooted names) = .ok content ↔
      ∃ mode, t.look names = .ok (some (.file content mode)) := by
  unfold read
  rw [stat_spell named accepted]
  cases t.look names with
  | error e => simp [bind, Except.bind]
  | ok seen =>
      cases seen with
      | none => simp [bind, Except.bind]
      | some e => cases e <;> simp [bind, Except.bind, pure, Except.pure, throw, throwThe,
          MonadExceptOf.throw]

theorem dropWhile_empty_split (named : ∀ m ∈ names ++ [n], IsName m) :
    (split (spell rooted (names ++ [n]))).reverse.dropWhile (· == "") =
      (split (spell rooted (names ++ [n]))).reverse := by
  have filled : n ≠ "" := (Path.named_concat_iff.1 named).2.1
  rw [Path.split_spell named (by simp)]
  simp [filled]

theorem target_spell (named : ∀ m ∈ names ++ [n], IsName m)
    (accepted : Accepts (spell rooted (names ++ [n]))) :
    t.target (spell rooted (names ++ [n])) =
      (t.look (names ++ [n])).map fun _ => (names, some n, false) := by
  obtain ⟨before, name⟩ := Path.named_concat_iff.1 named
  have shape : split (spell rooted (names ++ [n])) = _ := Path.split_spell named (by simp)
  have lead : t.walk ((if rooted then [""] else []) ++ names) = t.walk names := by
    cases rooted <;> rfl
  have plain : (decide (n = ".") || decide (n = "..")) = false := by
    simp [name.2.1, name.2.2.1]
  unfold target look
  rw [show stretches _ = _ from accepted, walk_concat]
  simp only [bind, Except.bind, dropWhile_empty_split named, List.reverse_reverse]
  rw [shape, ← List.append_assoc]
  simp only [List.dropLast_concat, List.getLast?_concat, lead, plain, bne_self_eq_false]
  cases walked : t.walk names with
  | error e => rfl
  | ok here =>
      obtain rfl := eq_of_walk_eq_ok before walked
      simp only [Bool.false_eq_true, if_false]
      cases stepped : t.step here n with
      | error e => rfl
      | ok there =>
          have arrived : there = here ++ [n] :=
            eq_of_walk_eq_ok named (by rw [walk_concat, walked, Except.bind, stepped])
          simp only [arrived, List.getLast?_concat]
          rfl

theorem makeDirectory_spell (named : ∀ m ∈ names ++ [n], IsName m)
    (accepted : Accepts (spell rooted (names ++ [n]))) :
    t.makeDirectory (spell rooted (names ++ [n])) =
      (t.look (names ++ [n])).bind fun
        | none => .ok (t.set (names ++ [n]) .directory)
        | some _ => .error .alreadyExists := by
  unfold makeDirectory
  rw [target_spell named accepted]
  cases looked : t.look (names ++ [n]) with
  | error e => rfl
  | ok seen =>
      obtain rfl := eq_get?_of_look looked
      simp only [bind, Except.bind, Except.map]
      cases t.get? (names ++ [n]) <;> rfl

theorem write_spell (named : ∀ m ∈ names ++ [n], IsName m)
    (accepted : Accepts (spell rooted (names ++ [n]))) :
    t.write (spell rooted (names ++ [n])) content =
      (t.look (names ++ [n])).bind fun
        | none => .ok (t.set (names ++ [n]) (.file content fileMode))
        | some (.file _ mode) => .ok (t.set (names ++ [n]) (.file content mode))
        | some .directory => .error .isDirectory := by
  unfold write
  rw [target_spell named accepted]
  cases looked : t.look (names ++ [n]) with
  | error e => rfl
  | ok seen =>
      obtain rfl := eq_get?_of_look looked
      simp only [bind, Except.bind, Except.map]
      cases t.get? (names ++ [n]) with
      | none => rfl
      | some e => cases e <;> rfl

theorem setMode_spell {mode old : Nat} (named : ∀ n ∈ names, IsName n)
    (accepted : Accepts (spell rooted names))
    (looked : t.look names = .ok (some (.file content old))) :
    t.setMode (spell rooted names) mode =
      .ok (t.set names (.file content (mode % 0o10000))) := by
  unfold setMode
  rw [stat_spell named accepted, looked]
  rfl

end Paths

end FileTree

end Scaffold
