import Mathlib
import Scaffold.Proofs.Path.Confinement

/-!
What lies around an absolute path, however it is written. Slashes and dots at its end are lost on
the way up: around a name below it lie the path without them and all that lies around the path
itself.
-/

namespace Scaffold.Path

/-- What stands after the root of an absolute path, up to the last stretch that counts. -/
def trunk (path : String) : List String :=
  dropEmptyEnd ((split path).drop 1)

/-- An absolute path without the slashes and dots at its end. -/
def tidy (path : String) : String :=
  "/" ++ joined (trunk path)

/-- Whether two texts are one path: slashes and dots between the components do not count. -/
def Same (path other : String) : Prop :=
  components path = components other

section Ends

variable {stretches : List String} {s : String}

theorem component?_eq_none_iff : component? s = none ↔ s = "" ∨ s = "." := by
  unfold component?
  split
  · simp_all
  · split <;> simp_all

theorem dropEmptyEnd_concat_of_none (nothing : component? s = none) :
    dropEmptyEnd (stretches ++ [s]) = dropEmptyEnd stretches :=
  List.rdropWhile_concat_pos _ _ _ (by simp [nothing])

theorem dropEmptyEnd_concat_of_isName (name : IsName s) :
    dropEmptyEnd (stretches ++ [s]) = stretches ++ [s] :=
  List.rdropWhile_concat_neg _ _ _ (by simp [name.component?])

theorem isPrefix_dropEmptyEnd (stretches : List String) : dropEmptyEnd stretches <+: stretches :=
  List.rdropWhile_prefix (fun s => (component? s).isNone) stretches

theorem dropEmptyEnd_dropEmptyEnd (stretches : List String) :
    dropEmptyEnd (dropEmptyEnd stretches) = dropEmptyEnd stretches :=
  List.rdropWhile_idempotent _ _

theorem dropEmptyEnd_append_of_none {idle : List String}
    (nothing : ∀ s ∈ idle, component? s = none) :
    dropEmptyEnd (stretches ++ idle) = dropEmptyEnd stretches := by
  induction idle using List.reverseRecOn with
  | nil => rw [List.append_nil]
  | append_singleton idle s ih =>
      obtain ⟨before, last⟩ := List.forall_mem_append.1 nothing
      rw [← List.append_assoc, dropEmptyEnd_concat_of_none (last s List.mem_cons_self), ih before]

theorem exists_eq_dropEmptyEnd_append (stretches : List String) :
    ∃ idle, (∀ s ∈ idle, component? s = none) ∧ stretches = dropEmptyEnd stretches ++ idle := by
  refine ⟨stretches.rtakeWhile fun s => (component? s).isNone, fun s member => ?_, ?_⟩
  · simpa using List.mem_rtakeWhile_imp member
  · exact List.rdropWhile_append_rtakeWhile.symm

end Ends

section Split

theorem joined_split (path : String) : joined (split path) = path := by
  rw [← String.toList_inj, joined, split, splitChars_eq_splitOn, String.toList_intercalate,
    List.map_map]
  simp

theorem joined_cons {stretches : List String} (s : String) (filled : stretches ≠ []) :
    joined (s :: stretches) = s ++ "/" ++ joined stretches :=
  String.intercalate_cons_of_ne_nil filled

theorem length_splitChars_le (cs : List Char) : (splitChars cs).length ≤ cs.length + 1 := by
  induction cs with
  | nil => exact Nat.le_refl _
  | cons c cs ih =>
      rw [splitChars]
      split
      · simpa using ih
      · cases rest : splitChars cs with
        | nil => simp
        | cons s ss =>
            rw [rest] at ih
            simp only [List.length_cons] at ih ⊢
            omega

theorem mem_iff_mem_splitChars {c : Char} (other : c ≠ '/') (cs : List Char) :
    c ∈ cs ↔ ∃ s ∈ splitChars cs, c ∈ s := by
  induction cs with
  | nil => simp [splitChars]
  | cons d cs ih =>
      rw [splitChars, List.mem_cons, ih]
      split
      · next slash => simp [slash, other]
      · cases stretches : splitChars cs with
        | nil => exact absurd stretches (splitChars_ne_nil cs)
        | cons s ss => simp [or_assoc]

theorem mem_toList_iff {c : Char} (other : c ≠ '/') (path : String) :
    c ∈ path.toList ↔ ∃ s ∈ split path, c ∈ s.toList := by
  rw [mem_iff_mem_splitChars other, split]
  simp

theorem utf8ByteSize_joined_cons (s : String) (stretches : List String) :
    (joined (s :: stretches)).utf8ByteSize =
      s.utf8ByteSize + (stretches.map fun s => s.utf8ByteSize + 1).sum := by
  induction stretches generalizing s with
  | nil => rw [joined, String.intercalate_singleton, List.map_nil, List.sum_nil, Nat.add_zero]
  | cons next stretches ih =>
      have slash : "/".utf8ByteSize = 1 := rfl
      rw [joined_cons s (List.cons_ne_nil _ _), String.utf8ByteSize_append,
        String.utf8ByteSize_append, ih, List.map_cons, List.sum_cons, slash]
      omega

theorem exists_eq_slash_append {path : String} (absolute : isAbsolute path) :
    ∃ rest, path = "/" ++ rest := by
  cases chars : path.toList with
  | nil => simp [isAbsolute, chars] at absolute
  | cons c cs =>
      obtain rfl : c = '/' := by simpa [isAbsolute, chars] using absolute
      exact ⟨String.ofList cs, by rw [← String.toList_inj]; simpa using chars⟩

theorem ne_empty_of_isAbsolute {path : String} (absolute : isAbsolute path) : path ≠ "" := by
  rintro rfl
  cases absolute

end Split

section Trunk

variable {path : String} {stretches : List String}

theorem slash_not_mem_of_mem_trunk {s : String} (member : s ∈ trunk path) : '/' ∉ s.toList :=
  slash_not_mem_of_mem_split (List.mem_of_mem_drop ((isPrefix_dropEmptyEnd _).subset member))

theorem trunk_slash_append (rest : String) : trunk ("/" ++ rest) = dropEmptyEnd (split rest) := by
  rw [trunk, split_slash, List.drop_one, List.tail_cons]

theorem trunk_slash_joined (slashless : ∀ s ∈ stretches, '/' ∉ s.toList) :
    trunk ("/" ++ joined stretches) = dropEmptyEnd stretches := by
  by_cases filled : stretches = []
  · subst filled
    decide
  · rw [trunk_slash_append, joined, split_intercalate filled slashless]

theorem trunk_tidy (path : String) : trunk (tidy path) = trunk path := by
  rw [tidy, trunk_slash_joined fun _ => slash_not_mem_of_mem_trunk]
  exact dropEmptyEnd_dropEmptyEnd _

theorem tidy_tidy (path : String) : tidy (tidy path) = tidy path := by
  rw [tidy, trunk_tidy, ← tidy]

theorem isAbsolute_slash_append (rest : String) : isAbsolute ("/" ++ rest) = true := by
  simp [isAbsolute]

theorem isAbsolute_tidy (path : String) : isAbsolute (tidy path) = true :=
  isAbsolute_slash_append _

theorem length_trunk_le (path : String) : (trunk path).length ≤ path.length := by
  have kept := (isPrefix_dropEmptyEnd ((split path).drop 1)).length_le
  have all := length_splitChars_le path.toList
  rw [List.length_drop, split, List.length_map] at kept
  rw [String.length_toList] at all
  exact kept.trans (by omega)

theorem parent?_of_isAbsolute (absolute : isAbsolute path) :
    parent? path =
      match trunk path with
      | [] => none
      | body => some ("/" ++ joined (dropEmptyEnd body.dropLast)) := by
  unfold parent?
  rw [if_pos absolute]
  rfl

theorem parent?_of_trunk_eq_concat {s : String} (absolute : isAbsolute path)
    (last : trunk path = stretches ++ [s]) :
    parent? path = some ("/" ++ joined (dropEmptyEnd stretches)) := by
  rw [parent?_of_isAbsolute absolute, last]
  split
  · next empty => simp at empty
  · rw [List.dropLast_concat]

theorem parent?_tidy (absolute : isAbsolute path) : parent? (tidy path) = parent? path := by
  rw [parent?_of_isAbsolute absolute, parent?_of_isAbsolute (isAbsolute_tidy path), trunk_tidy]

theorem of_parent?_eq_some {around : String} (absolute : isAbsolute path)
    (parent : parent? path = some around) :
    isAbsolute around ∧ (trunk around).length < (trunk path).length := by
  rw [parent?_of_isAbsolute absolute] at parent
  split at parent
  · cases parent
  · next filled =>
    cases parent
    have first := isPrefix_dropEmptyEnd (trunk path).dropLast
    have slashless : ∀ s ∈ dropEmptyEnd (trunk path).dropLast, '/' ∉ s.toList := fun s member =>
      slash_not_mem_of_mem_trunk (List.mem_of_mem_dropLast (first.subset member))
    have kept := first.length_le
    have some : (trunk path).length ≠ 0 := by simpa using filled
    refine ⟨isAbsolute_slash_append _, ?_⟩
    rw [trunk_slash_joined slashless, dropEmptyEnd_dropEmptyEnd]
    rw [List.length_dropLast] at kept
    omega

end Trunk

section Around

variable {path : String}

theorem ancestorsFrom_of_parent?_eq_none (root : parent? path = none) (fuel : Nat) :
    ancestorsFrom fuel path = [path] := by
  cases fuel <;> simp [ancestorsFrom, root]

/-- Where the run may take a step for each stretch, it ends at the root and not before. -/
theorem ancestorsFrom_congr (absolute : isAbsolute path) {fuel other : Nat}
    (enough : (trunk path).length ≤ fuel) (enough' : (trunk path).length ≤ other) :
    ancestorsFrom fuel path = ancestorsFrom other path := by
  induction fuel generalizing path other with
  | zero =>
      have empty : trunk path = [] := List.eq_nil_of_length_eq_zero (by omega)
      have root : parent? path = none := by rw [parent?_of_isAbsolute absolute, empty]
      rw [ancestorsFrom_of_parent?_eq_none root, ancestorsFrom_of_parent?_eq_none root]
  | succ fuel ih =>
      cases parent : parent? path with
      | none =>
          rw [ancestorsFrom_of_parent?_eq_none parent, ancestorsFrom_of_parent?_eq_none parent]
      | some around =>
          obtain ⟨absolute', fewer⟩ := of_parent?_eq_some absolute parent
          obtain ⟨other, rfl⟩ : ∃ n, other = n + 1 := Nat.exists_eq_add_one.2 (by omega)
          rw [ancestorsFrom, ancestorsFrom, parent]
          exact congrArg (path :: ·) (ih absolute' (by omega) (by omega))

theorem isAbsolute_of_mem_ancestorsFrom (absolute : isAbsolute path) {fuel : Nat} {around : String}
    (member : around ∈ ancestorsFrom fuel path) : isAbsolute around := by
  induction fuel generalizing path with
  | zero =>
      obtain rfl := List.mem_singleton.1 member
      exact absolute
  | succ fuel ih =>
      rcases List.mem_cons.1 member with rfl | member
      · exact absolute
      · cases parent : parent? path with
        | none => simp [parent] at member
        | some outer =>
            rw [parent] at member
            exact ih (of_parent?_eq_some absolute parent).1 member

/-- Around an absolute path lies its parent, and all that lies around that. -/
theorem ancestors_eq_cons (absolute : isAbsolute path) :
    ancestors path = path :: (parent? path).elim [] ancestors := by
  have enough := length_trunk_le path
  cases parent : parent? path with
  | none => exact ancestorsFrom_of_parent?_eq_none parent _
  | some around =>
      obtain ⟨absolute', fewer⟩ := of_parent?_eq_some absolute parent
      obtain ⟨fuel, length⟩ : ∃ n, path.length = n + 1 := Nat.exists_eq_add_one.2 (by omega)
      rw [ancestors, length, ancestorsFrom, parent]
      simp only [Option.elim]
      rw [ancestors, ancestorsFrom_congr absolute' (by omega) (length_trunk_le around)]

end Around

section Names

variable {dir n : String} {names : List String}

/-- What stands in front of names below an absolute path is its trunk, and stretches that lead
nowhere. -/
theorem exists_lead_eq (absolute : isAbsolute dir) :
    ∃ idle, (∀ s ∈ idle, component? s = none) ∧ lead dir = "" :: (trunk dir ++ idle) := by
  obtain ⟨more, starts, ends⟩ :
      ∃ more, lead dir = "" :: more ∧ dropEmptyEnd more = trunk dir := by
    obtain ⟨rest, rfl⟩ := exists_eq_slash_append absolute
    by_cases isOpen : IsOpen ("/" ++ rest)
    · have filled : split rest ≠ [] := by simp [split, splitChars_ne_nil]
      have written := split_of_isOpen isOpen
      have lead : lead ("/" ++ rest) = "" :: (split rest).dropLast := by
        rw [lead, if_pos isOpen, split_slash, List.dropLast_cons_of_ne_nil filled]
      rw [lead, split_slash, List.cons_append, List.cons.injEq] at written
      refine ⟨_, lead, ?_⟩
      rw [trunk_slash_append]
      conv_rhs => rw [written.2, dropEmptyEnd_concat_of_none rfl]
    · refine ⟨split rest, ?_, ?_⟩
      · rw [lead, if_neg isOpen, split_slash]
      · rw [trunk_slash_append]
  obtain ⟨idle, nothing, written⟩ := exists_eq_dropEmptyEnd_append more
  exact ⟨idle, nothing, by rw [starts, ← ends, ← written]⟩

theorem lead_tidy (dir : String) : lead (tidy dir) = "" :: trunk dir := by
  by_cases root : trunk dir = []
  · rw [tidy, root]
    decide
  · obtain ⟨idle, -, starts⟩ := exists_lead_eq (isAbsolute_tidy dir)
    have written : split (tidy dir) = "" :: trunk dir := by
      rw [tidy, split_slash, joined, split_intercalate root fun _ => slash_not_mem_of_mem_trunk]
    -- a slash at the end would be one stretch more than there are
    have closed : ¬IsOpen (tidy dir) := by
      intro isOpen
      have lengths := congrArg List.length (split_of_isOpen isOpen)
      rw [written, starts, trunk_tidy] at lengths
      simp only [List.length_cons, List.length_append, List.length_nil] at lengths
      omega
    rw [lead, if_neg closed, written]

theorem split_join_tidy (dir : String) (name : IsName n) :
    split (join (tidy dir) n) = "" :: (trunk dir ++ [n]) := by
  rw [split_join name, lead_tidy, List.cons_append]

theorem isAbsolute_join (absolute : isAbsolute dir) (path : String) :
    isAbsolute (join dir path) = true := by
  have filled := ne_empty_of_isAbsolute absolute
  unfold join
  split
  · assumption
  · split
    · rw [isAbsolute_append filled, absolute]
    · rw [String.append_assoc, isAbsolute_append filled, absolute]

theorem split_join_of_isAbsolute (absolute : isAbsolute dir) (name : IsName n) :
    split (join dir n) = "" :: trunk (join dir n) := by
  obtain ⟨idle, -, starts⟩ := exists_lead_eq absolute
  rw [trunk, split_join name, starts, List.cons_append, List.drop_one, List.tail_cons,
    dropEmptyEnd_concat_of_isName name]

theorem exists_trunk_join_eq (absolute : isAbsolute dir) (name : IsName n) :
    ∃ idle, (∀ s ∈ idle, component? s = none) ∧
      trunk (join dir n) = trunk dir ++ idle ++ [n] := by
  obtain ⟨idle, nothing, starts⟩ := exists_lead_eq absolute
  have written := split_join_of_isAbsolute absolute name
  rw [split_join name, starts, List.cons_append, List.cons.injEq] at written
  exact ⟨idle, nothing, written.2.symm⟩

theorem utf8ByteSize_join_tidy_le (absolute : isAbsolute dir) (name : IsName n) :
    (join (tidy dir) n).utf8ByteSize ≤ (join dir n).utf8ByteSize := by
  obtain ⟨idle, -, body⟩ := exists_trunk_join_eq absolute name
  rw [← joined_split (join dir n), split_join_of_isAbsolute absolute name, body,
    ← joined_split (join (tidy dir) n), split_join_tidy dir name, utf8ByteSize_joined_cons,
    utf8ByteSize_joined_cons]
  simp only [List.map_append, List.sum_append]
  omega

theorem le_utf8ByteSize_join (dir : String) (name : IsName n) :
    dir.utf8ByteSize + n.utf8ByteSize ≤ (join dir n).utf8ByteSize := by
  rw [join_eq_opened dir name, opened, String.utf8ByteSize_append]
  split
  · exact Nat.le_refl _
  · rw [String.utf8ByteSize_append]
    omega

/-- A path that ends in a name is tidy. -/
theorem tidy_join (absolute : isAbsolute dir) (name : IsName n) :
    tidy (join dir n) = join dir n := by
  obtain ⟨idle, -, body⟩ := exists_trunk_join_eq absolute name
  have filled : trunk (join dir n) ≠ [] := by simp [body]
  calc
    tidy (join dir n) = joined ("" :: trunk (join dir n)) := by
      rw [tidy, joined_cons "" filled, String.empty_append]
    _ = join dir n := by rw [← split_join_of_isAbsolute absolute name, joined_split]

/-- Around a name below an absolute path lies the path in its tidy form. -/
theorem parent?_join (absolute : isAbsolute dir) (name : IsName n) :
    parent? (join dir n) = some (tidy dir) := by
  obtain ⟨idle, nothing, body⟩ := exists_trunk_join_eq absolute name
  rw [parent?_of_trunk_eq_concat (isAbsolute_join absolute n) body,
    dropEmptyEnd_append_of_none nothing, trunk, dropEmptyEnd_dropEmptyEnd]
  rfl

theorem components_tidy (absolute : isAbsolute dir) : components (tidy dir) = components dir := by
  obtain ⟨idle, nothing, starts⟩ := exists_lead_eq absolute
  have idles : idle.filterMap component? = [] := List.filterMap_eq_nil_iff.2 nothing
  unfold components
  rw [if_pos (isAbsolute_tidy dir), if_pos absolute, ← filterMap_lead, ← filterMap_lead, starts,
    lead_tidy, List.filterMap_cons, List.filterMap_cons, List.filterMap_append, idles,
    List.append_nil]

/-- A name below a directory is the same path as below its tidy path. -/
theorem same_join_tidy (absolute : isAbsolute dir) (name : IsName n) :
    Same (join (tidy dir) n) (join dir n) := by
  have named : ∀ m ∈ [n], IsName m := by simpa using name
  have inner : components (below (tidy dir) [n]) = components (below dir [n]) := by
    rw [components_below named, components_below named, components_tidy absolute]
  exact inner

theorem below_concat (dir : String) (names : List String) (n : String) :
    below dir (names ++ [n]) = join (below dir names) n := by
  rw [below, List.foldl_append]
  rfl

theorem isAbsolute_below_of_isAbsolute (absolute : isAbsolute dir) (names : List String) :
    isAbsolute (below dir names) = true := by
  induction names using List.reverseRecOn with
  | nil => exact absolute
  | append_singleton names n ih =>
      rw [below_concat]
      exact isAbsolute_join ih n

theorem tidy_below (absolute : isAbsolute dir) (named : ∀ n ∈ names, IsName n)
    (filled : names ≠ []) : tidy (below dir names) = below dir names := by
  obtain ⟨names, n, rfl⟩ := (List.eq_nil_or_concat' names).resolve_left filled
  rw [below_concat]
  exact tidy_join (isAbsolute_below_of_isAbsolute absolute names) (named_concat_iff.1 named).2

end Names

end Scaffold.Path
