import Scaffold.Proofs.Path.Normal

/-!
Spellings of a path: the texts that leave the same names once their dots are resolved. Below any
directory, however that is written, two paths share their target exactly if they are spellings of
one path.
-/

namespace Scaffold.Path

section Split

theorem splitChars_ne_nil (cs : List Char) : splitChars cs ≠ [] := by
  rw [splitChars_eq_splitOn]
  exact List.splitOn_ne_nil _ _

theorem splitChars_append_slash (first rest : List Char) :
    splitChars (first ++ '/' :: rest) = splitChars first ++ splitChars rest := by
  induction first with
  | nil => simp [splitChars]
  | cons c first ih =>
      rw [List.cons_append, splitChars, splitChars, ih]
      by_cases slash : c = '/'
      · simp [slash]
      · cases stretches : splitChars first with
        | nil => exact absurd stretches (splitChars_ne_nil first)
        | cons s ss => simp [slash]

theorem split_append_slash (first rest : String) :
    split (first ++ "/" ++ rest) = split first ++ split rest := by
  simp [split, splitChars_append_slash]

theorem split_of_isName {n : String} (name : IsName n) : split n = [n] := by
  simpa using split_intercalate (List.cons_ne_nil n []) (by simpa using name.2.2.2)

end Split

/-- Whether a name may follow a directory's path at once: nothing stands there, or a slash does at
its end. -/
def IsOpen (root : String) : Prop :=
  (root.isEmpty || root.toList.getLast? == some '/') = true

instance : DecidablePred IsOpen :=
  fun _ => inferInstanceAs (Decidable (_ = true))

/-- The stretches that stand in front of the names below a directory. -/
def lead (root : String) : List String :=
  if IsOpen root then (split root).dropLast else split root

section Below

variable {root n : String} {names : List String}

theorem not_isOpen_append (root : String) (name : IsName n) : ¬IsOpen (root ++ n) := by
  have chars : n.toList ≠ [] := String.toList_eq_nil_iff.not.2 name.1
  have last : n.toList.getLast? ≠ some '/' :=
    fun slash => name.2.2.2 (List.mem_of_getLast? slash)
  simp [IsOpen, List.getLast?_append_of_ne_nil _ chars, last, name.1]

theorem join_of_isOpen (isOpen : IsOpen root) (name : IsName n) : join root n = root ++ n := by
  rw [join, name.not_absolute, if_neg Bool.false_ne_true]
  exact if_pos isOpen

theorem join_of_not_isOpen (closed : ¬IsOpen root) (name : IsName n) :
    join root n = root ++ "/" ++ n := by
  rw [join, name.not_absolute, if_neg Bool.false_ne_true]
  exact if_neg closed

theorem IsOpen.eq_empty_or_append (isOpen : IsOpen root) :
    root = "" ∨ ∃ before, root = before ++ "/" := by
  unfold IsOpen at isOpen
  rcases Bool.or_eq_true _ _ ▸ isOpen with empty | last
  · exact .inl (by simpa using empty)
  · obtain ⟨before, chars⟩ := List.getLast?_eq_some_iff.1 (beq_iff_eq.1 last)
    exact .inr ⟨String.ofList before, by rw [← String.toList_inj]; simpa using chars⟩

theorem split_concat_slash (before : String) : split (before ++ "/") = split before ++ [""] := by
  rw [← String.append_empty (s := before ++ "/"), split_append_slash]
  rfl

theorem split_of_isOpen (isOpen : IsOpen root) : split root = lead root ++ [""] := by
  rw [lead, if_pos isOpen]
  rcases isOpen.eq_empty_or_append with rfl | ⟨before, rfl⟩
  · rfl
  · rw [split_concat_slash, List.dropLast_concat]

theorem split_join (name : IsName n) : split (join root n) = lead root ++ [n] := by
  by_cases isOpen : IsOpen root
  · rw [join_of_isOpen isOpen name, lead, if_pos isOpen]
    rcases isOpen.eq_empty_or_append with rfl | ⟨before, rfl⟩
    · simpa [split, splitChars] using split_of_isName name
    · rw [split_append_slash, split_of_isName name, split_concat_slash, List.dropLast_concat]
  · rw [join_of_not_isOpen isOpen name, lead, if_neg isOpen, split_append_slash,
      split_of_isName name]

theorem not_isOpen_join (root : String) (name : IsName n) : ¬IsOpen (join root n) := by
  by_cases isOpen : IsOpen root
  · rw [join_of_isOpen isOpen name]
    exact not_isOpen_append root name
  · rw [join_of_not_isOpen isOpen name]
    exact not_isOpen_append _ name

theorem lead_join (name : IsName n) : lead (join root n) = split (join root n) :=
  if_neg (not_isOpen_join root name)

theorem split_below (named : ∀ m ∈ n :: names, IsName m) :
    split (below root (n :: names)) = lead root ++ n :: names := by
  induction names generalizing root n with
  | nil => exact split_join (named n List.mem_cons_self)
  | cons m names ih =>
      obtain ⟨name, rest⟩ := List.forall_mem_cons.1 named
      have inner : split (below (join root n) (m :: names)) = _ := ih rest
      rw [lead_join name, split_join name, List.append_assoc] at inner
      exact inner

end Below

section Targets

variable {root path other target : String} {names : List String}

/-- A target is spelled as the directory is, with the names of the path after that. -/
theorem split_of_resolve (resolved : resolve root path = some target) :
    ∃ names, names? path = some names ∧ (∀ n ∈ names, IsName n) ∧
      split target = lead root ++ names ∧ target = below root names := by
  unfold resolve at resolved
  split at resolved
  · cases resolved
  · cases resolved
  · next names filled left =>
    cases resolved
    have named := named_of_names? left
    cases names with
    | nil => exact absurd rfl filled
    | cons n names => exact ⟨_, left, named, split_below named, rfl⟩

/-- Two paths share their target exactly if they are spellings of one path. -/
theorem resolve_eq_iff {first second : String} (resolved : resolve root path = some first)
    (resolved' : resolve root other = some second) :
    first = second ↔ names? path = names? other := by
  obtain ⟨names, left, -, written, rfl⟩ := split_of_resolve resolved
  obtain ⟨names', left', -, written', rfl⟩ := split_of_resolve resolved'
  rw [left, left', Option.some.injEq]
  constructor
  · intro same
    rw [same] at written
    exact List.append_cancel_left (written.symm.trans written')
  · rintro rfl
    rfl

theorem not_absolute_of_resolve (resolved : resolve root path = some target) :
    isAbsolute path = false := by
  obtain ⟨names, left, -⟩ := split_of_resolve resolved
  cases absolute : isAbsolute path with
  | false => rfl
  | true =>
      simp [names?, components, absolute, climb] at left

theorem foldlM_climb_names (start : List String) :
    (names.map Component.name).foldlM climb start = some (start ++ names) := by
  induction names generalizing start with
  | nil => simp
  | cons n names ih => simp [climb, ih]

theorem filterMap_component? (named : ∀ n ∈ names, IsName n) :
    names.filterMap component? = names.map .name := by
  rw [← List.filterMap_eq_map']
  exact List.filterMap_congr fun n member => (named n member).component?

theorem components_spell (named : ∀ n ∈ names, IsName n) :
    components (spell false names) = names.map .name := by
  have plain := filterMap_component? named
  have noDot : (names.head? == some ".") = false :=
    beq_eq_false_iff_ne.2 fun dot => (named "." (List.mem_of_head? dot)).2.1 rfl
  unfold components
  rw [isAbsolute_spell named, if_neg Bool.false_ne_true]
  by_cases filled : names = []
  · subst filled
    rfl
  · simp [split_spell named filled, noDot, plain]

theorem names?_spell (named : ∀ n ∈ names, IsName n) : names? (spell false names) = some names := by
  rw [names?, components_spell named, foldlM_climb_names, List.nil_append]

/-- A path in normal form has no other spelling that is in normal form. -/
theorem IsNormal.eq_of_names?_eq (normal : IsNormal path) (normal' : IsNormal other)
    (relative : isAbsolute path = false) (relative' : isAbsolute other = false)
    (same : names? path = names? other) : path = other := by
  have left (path : String) (normal : IsNormal path) (relative : isAbsolute path = false) :
      path = spell false (location path) ∧ names? path = some (location path) := by
    have spelled : path = spell false (location path) := relative ▸ normal.spelled
    refine ⟨spelled, ?_⟩
    conv_lhs => rw [spelled]
    exact names?_spell normal.named
  obtain ⟨spelled, names⟩ := left path normal relative
  obtain ⟨spelled', names'⟩ := left other normal' relative'
  rw [names, names', Option.some.injEq] at same
  rw [spelled, spelled', same]

end Targets

end Scaffold.Path
