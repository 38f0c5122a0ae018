import Mathlib.Data.List.Infix
import Scaffold.Emit.Target

/-!
Normal paths: names with single slashes between them, and perhaps one slash in front. What stands
between the slashes of such a path, what lies around it and what is joined to it follow from its
names. The target of a path below a normal directory is normal.
-/

namespace Scaffold.Path

/-- A stretch that stands for a name. -/
def IsName (s : String) : Prop :=
  s ≠ "" ∧ s ≠ "." ∧ s ≠ ".." ∧ '/' ∉ s.toList

instance : DecidablePred IsName :=
  fun _ => inferInstanceAs (Decidable (_ ∧ _ ∧ _ ∧ _))

/-- The names in a path, as long as it has no dots. -/
def location (path : String) : List String :=
  (split path).filter (· ≠ "")

/-- The path with some names, from the root or from here. -/
def spell (rooted : Bool) (names : List String) : String :=
  (if rooted then "/" else "") ++ "/".intercalate names

/-- Whether a path has no dots and no slash too many. -/
structure IsNormal (path : String) : Prop where
  named : ∀ n ∈ location path, IsName n
  spelled : path = spell (isAbsolute path) (location path)

instance : DecidablePred IsNormal :=
  fun _ => decidable_of_iff (_ ∧ _) ⟨fun h => ⟨h.1, h.2⟩, fun h => ⟨h.named, h.spelled⟩⟩

section Split

theorem splitChars_eq_splitOn (cs : List Char) : splitChars cs = cs.splitOn '/' := by
  induction cs with
  | nil => rfl
  | cons c cs ih =>
      rw [List.splitOn_cons_eq_if_modifyHead, splitChars, ih]
      by_cases slash : c = '/'
      · simp [slash]
      · rw [if_neg slash, if_neg (by simpa using slash)]
        cases split : cs.splitOn '/' with
        | nil => exact absurd split (List.splitOn_ne_nil _ _)
        | cons s ss => rfl

theorem slash_not_mem_of_mem_splitChars {cs s : List Char} (member : s ∈ splitChars cs) :
    '/' ∉ s := by
  induction cs generalizing s with
  | nil => simp_all [splitChars]
  | cons c cs ih =>
      rw [splitChars] at member
      split at member
      · rcases List.mem_cons.1 member with rfl | member
        · exact List.not_mem_nil
        · exact ih member
      · next other =>
        cases split : splitChars cs with
        | nil =>
            rw [split, List.mem_singleton] at member
            simpa [member] using Ne.symm other
        | cons first rest =>
            rw [split] at member ih
            rcases List.mem_cons.1 member with rfl | member
            · exact List.not_mem_cons_of_ne_of_not_mem (Ne.symm other) (ih List.mem_cons_self)
            · exact ih (List.mem_cons_of_mem _ member)

theorem slash_not_mem_of_mem_split {path s : String} (member : s ∈ split path) :
    '/' ∉ s.toList := by
  obtain ⟨cs, stretch, rfl⟩ := List.mem_map.1 member
  rw [String.toList_ofList]
  exact slash_not_mem_of_mem_splitChars stretch

theorem split_slash (path : String) : split ("/" ++ path) = "" :: split path := by
  simp [split, splitChars]

theorem split_intercalate {stretches : List String} (filled : stretches ≠ [])
    (slashless : ∀ s ∈ stretches, '/' ∉ s.toList) :
    split ("/".intercalate stretches) = stretches := by
  have apart : ∀ cs ∈ stretches.map String.toList, '/' ∉ cs := by
    simpa using slashless
  calc
    split ("/".intercalate stretches)
        = ((['/'].intercalate (stretches.map String.toList)).splitOn '/').map String.ofList := by
          rw [split, splitChars_eq_splitOn, String.toList_intercalate]
          rfl
    _ = (stretches.map String.toList).map String.ofList := by
          rw [List.splitOn_intercalate _ apart (by simpa using filled)]
    _ = stretches := by simp

end Split

section Spell

variable {rooted : Bool} {names more : List String} {n : String}

theorem IsName.component? (name : IsName n) : component? n = some (.name n) := by
  obtain ⟨filled, noDot, noDots, -⟩ := name
  simp [Path.component?, filled, noDot, noDots]

theorem named_concat_iff :
    (∀ m ∈ names ++ [n], IsName m) ↔ (∀ m ∈ names, IsName m) ∧ IsName n := by
  simp [or_imp, forall_and]

theorem split_spell (named : ∀ n ∈ names, IsName n) (filled : names ≠ []) :
    split (spell rooted names) = (if rooted then [""] else []) ++ names := by
  have slashless : ∀ n ∈ names, '/' ∉ n.toList := fun n member => (named n member).2.2.2
  cases rooted with
  | false => simpa [spell] using split_intercalate filled slashless
  | true => simpa [spell, split_slash] using split_intercalate filled slashless

theorem spell_concat (filled : names ≠ []) :
    spell rooted (names ++ [n]) = spell rooted names ++ ("/" ++ n) := by
  rw [spell, spell, String.intercalate_append_of_ne_nil filled (List.cons_ne_nil _ _),
    String.intercalate_singleton, String.append_assoc, String.append_assoc]

theorem location_spell (named : ∀ n ∈ names, IsName n) : location (spell rooted names) = names := by
  by_cases filled : names = []
  · subst filled
    cases rooted <;> rfl
  · have kept : names.filter (· ≠ "") = names := by
      simpa using fun n member => (named n member).1
    rw [location, split_spell named filled, List.filter_append, kept]
    cases rooted <;> rfl

theorem IsName.not_absolute (name : IsName n) : isAbsolute n = false := by
  obtain ⟨-, -, -, slashless⟩ := name
  cases chars : n.toList with
  | nil => simp [isAbsolute, chars]
  | cons c cs =>
      rw [chars] at slashless
      simpa [isAbsolute, chars] using fun same : c = '/' => slashless (by simp [same])

theorem isAbsolute_append {first : String} (filled : first ≠ "") (rest : String) :
    isAbsolute (first ++ rest) = isAbsolute first := by
  cases chars : first.toList with
  | nil => exact absurd (String.toList_eq_nil_iff.1 chars) filled
  | cons c cs => simp [isAbsolute, chars]

theorem isAbsolute_spell (named : ∀ n ∈ names, IsName n) :
    isAbsolute (spell rooted names) = rooted := by
  cases rooted with
  | true => simp [spell, isAbsolute]
  | false =>
      match names, named with
      | [], _ => rfl
      | [n], named => simpa [spell] using (named n List.mem_cons_self).not_absolute
      | n :: m :: rest, named =>
          have name := named n List.mem_cons_self
          rw [spell, String.intercalate_cons_cons, String.append_assoc]
          simpa [isAbsolute_append name.1] using name.not_absolute

theorem isNormal_spell (named : ∀ n ∈ names, IsName n) : IsNormal (spell rooted names) where
  named := by rwa [location_spell named]
  spelled := by rw [location_spell named, isAbsolute_spell named]

theorem IsNormal.exists_spell {path : String} (normal : IsNormal path) :
    ∃ rooted names, (∀ n ∈ names, IsName n) ∧ path = spell rooted names :=
  ⟨_, _, normal.named, normal.spelled⟩

theorem IsNormal.exists_concat {path : String} (normal : IsNormal path)
    (below : location path ≠ []) :
    ∃ rooted names n, (∀ m ∈ names ++ [n], IsName m) ∧ path = spell rooted (names ++ [n]) ∧
      location path = names ++ [n] := by
  obtain ⟨rooted, names, named, rfl⟩ := normal.exists_spell
  rw [location_spell named] at below
  obtain ⟨names, n, rfl⟩ := (List.eq_nil_or_concat' names).resolve_left below
  exact ⟨rooted, names, n, named, rfl, location_spell named⟩

theorem spell_ne_empty (named : ∀ n ∈ names, IsName n) (filled : names ≠ []) :
    spell rooted names ≠ "" := by
  intro empty
  have none : names = location "" := by rw [← empty, location_spell named]
  exact filled (none.trans rfl)

theorem exists_spell_concat (rooted : Bool) (names : List String) (n : String) :
    ∃ before, spell rooted (names ++ [n]) = before ++ n := by
  by_cases filled : names = []
  · exact ⟨if rooted then "/" else "", by simp [filled, spell]⟩
  · exact ⟨spell rooted names ++ "/", by rw [spell_concat filled, String.append_assoc]⟩

theorem getLast?_spell (named : ∀ n ∈ names, IsName n) (filled : names ≠ []) :
    (spell rooted names).toList.getLast? ≠ some '/' := by
  obtain ⟨names, n, rfl⟩ := (List.eq_nil_or_concat' names).resolve_left filled
  obtain ⟨-, name⟩ := named_concat_iff.1 named
  obtain ⟨before, written⟩ := exists_spell_concat rooted names n
  have chars : n.toList ≠ [] := String.toList_eq_nil_iff.not.2 name.1
  rw [written, String.toList_append, List.getLast?_append_of_ne_nil _ chars]
  intro last
  exact name.2.2.2 (List.mem_of_getLast? last)

theorem join_spell (named : ∀ n ∈ names, IsName n) (name : IsName n) :
    join (spell rooted names) n = spell rooted (names ++ [n]) := by
  rw [join, name.not_absolute, if_neg Bool.false_ne_true]
  by_cases filled : names = []
  · subst filled
    cases rooted <;> simp [spell]
  · have open_ : ¬((spell rooted names).isEmpty ||
        (spell rooted names).toList.getLast? == some '/') = true := by
      simp [spell_ne_empty named filled, getLast?_spell named filled]
    rw [spell_concat filled, if_neg open_, String.append_assoc]

theorem below_spell (named : ∀ n ∈ names, IsName n) (rest : ∀ n ∈ more, IsName n) :
    below (spell rooted names) more = spell rooted (names ++ more) := by
  induction more generalizing names with
  | nil => rw [below, List.foldl_nil, List.append_nil]
  | cons n more ih =>
      obtain ⟨name, rest⟩ := List.forall_mem_cons.1 rest
      have longer := named_concat_iff.2 ⟨named, name⟩
      rw [below, List.foldl_cons, join_spell named name, ← below, ih longer rest,
        List.append_assoc, List.singleton_append]

end Spell

section Targets

variable {rooted : Bool} {names : List String} {path target : String}

theorem isName_of_mem_components {n : String} (member : .name n ∈ components path) :
    IsName n := by
  have stretch : ∃ s ∈ split path, component? s = some (.name n) := by
    unfold components at member
    split at member <;> simp_all
  obtain ⟨s, member, stands⟩ := stretch
  unfold component? at stands
  split at stands
  · cases stands
  · split at stands
    · cases stands
    · cases stands
      simp_all [IsName, slash_not_mem_of_mem_split member]

theorem named_of_climb {component : Component} {next : List String}
    (named : ∀ n ∈ names, IsName n) (name : ∀ n, component = .name n → IsName n)
    (climbed : climb names component = some next) : ∀ n ∈ next, IsName n := by
  cases component with
  | root => cases climbed
  | current => simpa [← Option.some.inj climbed] using named
  | parent =>
      rw [climb] at climbed
      split at climbed
      · cases climbed
      · cases climbed
        exact fun n member => named n (List.mem_of_mem_dropLast member)
  | name n =>
      cases climbed
      exact named_concat_iff.2 ⟨named, name n rfl⟩

theorem named_of_names? (left : names? path = some names) : ∀ n ∈ names, IsName n := by
  have run : ∀ (parts : List Component) (start : List String),
      (∀ n, .name n ∈ parts → IsName n) → (∀ n ∈ start, IsName n) →
      parts.foldlM climb start = some names → ∀ n ∈ names, IsName n := by
    intro parts
    induction parts with
    | nil =>
        intro start _ named climbed
        cases climbed
        exact named
    | cons part parts ih =>
        intro start parted named climbed
        rw [List.foldlM_cons] at climbed
        obtain ⟨next, climbed, rest⟩ := Option.bind_eq_some_iff.1 climbed
        refine ih next (fun n member => parted n (List.mem_cons_of_mem _ member)) ?_ rest
        exact named_of_climb named (fun n same => parted n (same ▸ List.mem_cons_self)) climbed
  exact run _ [] (fun n => isName_of_mem_components) (fun _ none => absurd none List.not_mem_nil)
    left

theorem resolve_spell_eq_some_iff (named : ∀ n ∈ names, IsName n) :
    resolve (spell rooted names) path = some target ↔
      ∃ more, more ≠ [] ∧ names? path = some more ∧ target = spell rooted (names ++ more) := by
  unfold resolve
  cases left : names? path with
  | none => simp
  | some more =>
      have spelled : below (spell rooted names) more = spell rooted (names ++ more) :=
        below_spell named (named_of_names? left)
      cases more with
      | nil => simp
      | cons n more =>
          simp only [Option.some.injEq, spelled]
          constructor
          · rintro rfl
            exact ⟨_, List.cons_ne_nil _ _, rfl, rfl⟩
          · rintro ⟨_, -, rfl, rfl⟩
            rfl

/-- Whether a path is normal and leads from a directory strictly downwards. -/
structure LiesBelow (root target : String) : Prop where
  normal : IsNormal target
  rooted : isAbsolute target = isAbsolute root
  inside : location root <+: location target
  apart : location target ≠ location root

theorem liesBelow_of_resolve {root : String} (normal : IsNormal root)
    (resolved : resolve root path = some target) : LiesBelow root target := by
  obtain ⟨rooted, names, named, rfl⟩ := normal.exists_spell
  obtain ⟨more, filled, left, rfl⟩ := (resolve_spell_eq_some_iff named).1 resolved
  have all : ∀ n ∈ names ++ more, IsName n :=
    List.forall_mem_append.2 ⟨named, named_of_names? left⟩
  refine ⟨isNormal_spell all, ?_, ?_, ?_⟩
  · rw [isAbsolute_spell all, isAbsolute_spell named]
  · rw [location_spell all, location_spell named]
    exact List.prefix_append names more
  · rw [location_spell all, location_spell named]
    simpa using filled

theorem LiesBelow.location_ne_nil {root : String} (below : LiesBelow root target) :
    location target ≠ [] := by
  intro none
  have outer : location root = [] := List.prefix_nil.1 (none ▸ below.inside)
  exact below.apart (none.trans outer.symm)

theorem LiesBelow.ne_empty {root : String} (below : LiesBelow root target) : target ≠ "" := by
  rintro rfl
  exact below.location_ne_nil rfl

theorem LiesBelow.ext {root other : String} (below : LiesBelow root target)
    (below' : LiesBelow root other) (same : location target = location other) : target = other := by
  rw [below.normal.spelled, below'.normal.spelled, same, below.rooted, below'.rooted]

end Targets

section Parents

variable {rooted : Bool} {names : List String} {n : String}

theorem dropEmptyEnd_eq_self (named : ∀ n ∈ names, IsName n) : dropEmptyEnd names = names := by
  rcases List.eq_nil_or_concat' names with rfl | ⟨names, n, rfl⟩
  · rfl
  · obtain ⟨-, name⟩ := named_concat_iff.1 named
    simp [dropEmptyEnd, name.component?]

theorem parent?_spell_nil : parent? (spell rooted []) = none := by
  cases rooted <;> rfl

theorem parent?_spell_concat (named : ∀ m ∈ names ++ [n], IsName m) :
    parent? (spell rooted (names ++ [n])) = some (spell rooted names) := by
  have before := dropEmptyEnd_eq_self (named_concat_iff.1 named).1
  have body := dropEmptyEnd_eq_self named
  have noLead : ((names ++ [n]).head? == some ".") = false :=
    beq_eq_false_iff_ne.2 fun dot => (named "." (List.mem_of_head? dot)).2.1 rfl
  unfold parent?
  rw [isAbsolute_spell named, split_spell named (by simp)]
  cases rooted with
  | true => simp [body, before, spell, joined]
  | false =>
      simp only [Bool.false_eq_true, if_false, List.nil_append, noLead, List.length_nil,
        List.drop_zero, body]
      simp [before, spell, joined]

theorem length_le_length_spell (named : ∀ n ∈ names, IsName n) :
    names.length ≤ (spell rooted names).length := by
  induction names using List.reverseRecOn with
  | nil => exact Nat.zero_le _
  | append_singleton names n ih =>
      obtain ⟨named, name⟩ := named_concat_iff.1 named
      by_cases first : names = []
      · have filled : n.length ≠ 0 := by simpa [← String.length_toList] using name.1
        simp only [first, spell, List.nil_append, String.intercalate_singleton,
          String.length_append, List.length_singleton]
        omega
      · have shorter := ih named
        have slash : "/".length = 1 := rfl
        simp only [spell_concat first, String.length_append, List.length_append,
          List.length_singleton]
        omega

/-- Around a normal path lie the paths with its first names, the longest first. -/
theorem ancestors_spell (named : ∀ n ∈ names, IsName n) :
    ancestors (spell rooted names) = names.inits.reverse.map (spell rooted) := by
  have run : ∀ fuel, names.length ≤ fuel →
      ancestorsFrom fuel (spell rooted names) = names.inits.reverse.map (spell rooted) := by
    induction names using List.reverseRecOn with
    | nil =>
        intro fuel _
        cases fuel <;> simp [ancestorsFrom, parent?_spell_nil]
    | append_singleton names n ih =>
        intro fuel enough
        rw [List.length_append, List.length_singleton] at enough
        obtain ⟨fuel, rfl⟩ := Nat.exists_eq_add_of_le' (Nat.le_of_add_left_le enough)
        rw [ancestorsFrom, parent?_spell_concat named]
        simp [List.inits_append, ih (named_concat_iff.1 named).1 fuel (by omega)]
  exact run _ (length_le_length_spell named)

theorem ancestors_spell_nil : ancestors (spell rooted []) = [spell rooted []] :=
  ancestors_spell fun _ none => absurd none List.not_mem_nil

theorem ancestors_spell_concat (named : ∀ m ∈ names ++ [n], IsName m) :
    ancestors (spell rooted (names ++ [n])) =
      spell rooted (names ++ [n]) :: ancestors (spell rooted names) := by
  rw [ancestors_spell named, ancestors_spell (named_concat_iff.1 named).1, List.inits_append]
  simp

theorem LiesBelow.mem_ancestors {root around target : String} (outer : LiesBelow root around)
    (below : LiesBelow root target) (first : location around <+: location target) :
    around ∈ ancestors target := by
  rw [below.normal.spelled, ancestors_spell below.normal.named, below.rooted, ← outer.rooted]
  exact List.mem_map.2 ⟨_, List.mem_reverse.2 ((List.mem_inits _ _).2 first),
    outer.normal.spelled.symm⟩

end Parents

end Scaffold.Path
