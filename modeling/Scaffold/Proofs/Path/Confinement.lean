import Mathlib.Logic.Relation
import Scaffold.Proofs.Path.Spellings

/-!
Which paths have a target below a directory: those that never climb above it, be it only on their way,
and that leave some name. The names that are left are those of the path's lexical form, in which no
dot stands and no name is followed by a parent.
-/

namespace Scaffold.Path

open Relation (ReflTransGen)

def Component.isName : Component → Bool
  | .name _ => true
  | _ => false

/-- The path is seen from a directory, stays in it all along and ends below it. -/
structure Confined (path : String) : Prop where
  relative : isAbsolute path = false
  inside : ∀ before, before <+: components path →
    before.count .parent ≤ before.countP Component.isName
  beneath : (components path).count .parent < (components path).countP Component.isName

/-- One dot goes, or one name together with the parent behind it. -/
inductive Shortens : List Component → List Component → Prop where
  | current (before after : List Component) :
      Shortens (before ++ .current :: after) (before ++ after)
  | parent (before : List Component) (n : String) (after : List Component) :
      Shortens (before ++ .name n :: .parent :: after) (before ++ after)

/-- The components of a path, shortened until nothing can go. -/
structure LexicalForm (path : String) (form : List Component) : Prop where
  reached : ReflTransGen Shortens (components path) form
  settled : ∀ shorter, ¬Shortens form shorter

/-- The path of a directory as it stands in front of a name. -/
def opened (root : String) : String :=
  if IsOpen root then root else root ++ "/"

section Climbing

variable {parts before : List Component} {start left : List String}

theorem length_climb {part : Component} (climbed : climb start part = some left) :
    left.length + [part].count .parent = start.length + [part].countP Component.isName := by
  cases part with
  | root => cases climbed
  | current =>
      cases climbed
      rfl
  | parent =>
      rw [climb] at climbed
      split at climbed
      · cases climbed
      · next filled =>
        cases climbed
        have some : start.length ≠ 0 := by simpa using filled
        have none : [Component.parent].countP Component.isName = 0 := rfl
        rw [List.length_dropLast, List.count_singleton_self]
        omega
  | name n =>
      cases climbed
      simp [Component.isName]

theorem length_foldlM_climb (climbed : parts.foldlM climb start = some left) :
    left.length + parts.count .parent = start.length + parts.countP Component.isName := by
  induction parts generalizing start with
  | nil =>
      cases climbed
      rfl
  | cons part parts ih =>
      rw [List.foldlM_cons] at climbed
      obtain ⟨next, first, rest⟩ := Option.bind_eq_some_iff.1 climbed
      have step := length_climb first
      have later := ih rest
      rw [← List.singleton_append, List.count_append, List.countP_append]
      omega

theorem isSome_climb_iff {part : Component} :
    (climb start part).isSome ↔ part ≠ .root ∧ [part].count .parent ≤ start.length := by
  cases part with
  | root => simp [climb]
  | current => simp [climb]
  | parent =>
      cases start with
      | nil => simp [climb]
      | cons n start => simp [climb]
  | name n => simp [climb]

/-- A climb comes to its end if no prefix of it needs more names than there are. -/
theorem isSome_foldlM_climb_iff :
    (parts.foldlM climb start).isSome ↔ .root ∉ parts ∧ ∀ before, before <+: parts →
      before.count .parent ≤ start.length + before.countP Component.isName := by
  constructor
  · intro climbed
    obtain ⟨left, climbed⟩ := Option.isSome_iff_exists.1 climbed
    constructor
    · intro rooted
      obtain ⟨before, after, rfl⟩ := List.append_of_mem rooted
      rw [List.foldlM_append] at climbed
      obtain ⟨next, -, rest⟩ := Option.bind_eq_some_iff.1 climbed
      cases rest
    · rintro before ⟨after, rfl⟩
      rw [List.foldlM_append] at climbed
      obtain ⟨next, first, -⟩ := Option.bind_eq_some_iff.1 climbed
      have balance := length_foldlM_climb first
      omega
  · rintro ⟨unrooted, inside⟩
    induction parts using List.reverseRecOn with
    | nil => rfl
    | append_singleton parts part ih =>
        have earlier : .root ∉ parts := fun member =>
          unrooted (List.mem_append_left _ member)
        have climbed := ih earlier fun before first =>
          inside before (first.trans (List.prefix_append _ _))
        obtain ⟨next, climbed⟩ := Option.isSome_iff_exists.1 climbed
        have balance := length_foldlM_climb climbed
        have last := inside (parts ++ [part]) List.prefix_rfl
        rw [List.count_append, List.countP_append] at last
        have step : (climb next part).isSome := by
          apply isSome_climb_iff.2
          constructor
          · rintro rfl
            exact unrooted (List.mem_append_right _ List.mem_cons_self)
          · cases part with
            | parent =>
                have none : [Component.parent].countP Component.isName = 0 := rfl
                omega
            | _ => simp
        simpa [climbed] using step

end Climbing

/-! Lexical forms. -/

section Forms

variable {parts form : List Component} {start left names : List String}

theorem Shortens.foldlM_climb (shortens : Shortens parts form) (start : List String) :
    parts.foldlM climb start = form.foldlM climb start := by
  cases shortens with
  | current before after =>
      rw [List.foldlM_append, List.foldlM_append]
      rfl
  | parent before n after =>
      rw [List.foldlM_append, List.foldlM_append]
      apply congrArg (before.foldlM climb start >>= ·)
      funext names
      have back : climb (names ++ [n]) .parent = some names := by simp [climb]
      change (climb (names ++ [n]) .parent).bind _ = _
      rw [back, Option.bind_some]

theorem foldlM_climb_of_reached (reached : ReflTransGen Shortens parts form)
    (start : List String) : parts.foldlM climb start = form.foldlM climb start := by
  induction reached with
  | refl => rfl
  | tail _ shortens ih => rw [ih, shortens.foldlM_climb]

theorem Shortens.append {shorter : List Component} (shortens : Shortens form shorter)
    (more : List Component) : Shortens (form ++ more) (shorter ++ more) := by
  cases shortens with
  | current before after => simpa using Shortens.current before (after ++ more)
  | parent before n after => simpa using Shortens.parent before n (after ++ more)

/-- What is climbed is shortened on the way to the names that are left. -/
theorem reaches_of_foldlM_climb (climbed : parts.foldlM climb start = some left) :
    ReflTransGen Shortens (start.map .name ++ parts) (left.map .name) := by
  induction parts generalizing start with
  | nil =>
      cases climbed
      rw [List.append_nil]
  | cons part parts ih =>
      rw [List.foldlM_cons] at climbed
      obtain ⟨next, first, rest⟩ := Option.bind_eq_some_iff.1 climbed
      have later := ih rest
      cases part with
      | root => cases first
      | current =>
          cases first
          exact .head (.current _ _) later
      | parent =>
          rcases List.eq_nil_or_concat' start with rfl | ⟨start, n, rfl⟩
          · cases first
          · have back : next = start := by simpa [climb] using first.symm
            subst back
            rw [List.map_append, List.append_assoc]
            exact .head (.parent _ n _) later
      | name n =>
          cases first
          simpa using later

theorem not_shortens_names {shorter : List Component} :
    ¬Shortens (names.map .name) shorter := by
  intro shortens
  generalize same : names.map Component.name = row at shortens
  have named : ∀ part ∈ row, part.isName := by
    rw [← same]
    simp [Component.isName]
  cases shortens with
  | current before after => simpa [Component.isName] using named .current
  | parent before n after => simpa [Component.isName] using named .parent

/-- A row that is climbed and cannot be shortened is made of the names that are left. -/
theorem eq_of_settled (settled : ∀ shorter, ¬Shortens form shorter)
    (climbed : form.foldlM climb [] = some names) : form = names.map .name := by
  induction form using List.reverseRecOn generalizing names with
  | nil =>
      cases climbed
      rfl
  | append_singleton form part ih =>
      rw [List.foldlM_append] at climbed
      obtain ⟨before, first, last⟩ := Option.bind_eq_some_iff.1 climbed
      have earlier : form = before.map .name := by
        apply ih _ first
        intro shorter shortens
        exact settled _ (shortens.append [part])
      cases part with
      | root => cases last
      | current =>
          refine absurd ?_ (settled form)
          simpa using Shortens.current form []
      | parent =>
          rcases List.eq_nil_or_concat' before with rfl | ⟨before, n, rfl⟩
          · cases last
          · refine absurd ?_ (settled (before.map .name))
            rw [earlier]
            simpa using Shortens.parent (before.map .name) n []
      | name n =>
          cases last
          rw [earlier, List.map_append]
          rfl

/-- A path that leaves names has one lexical form, and that is made of them. -/
theorem lexicalForm_iff {path : String} (leaves : names? path = some names) :
    LexicalForm path form ↔ form = names.map .name := by
  constructor
  · intro lexical
    apply eq_of_settled lexical.settled
    rw [← foldlM_climb_of_reached lexical.reached]
    exact leaves
  · rintro rfl
    have climbed : (components path).foldlM climb [] = some names := leaves
    have reached := reaches_of_foldlM_climb climbed
    exact ⟨reached, fun _ => not_shortens_names⟩

end Forms

/-! Targets. -/

section Targets

variable {root path other target : String} {n : String} {names : List String}

theorem root_mem_components_iff : .root ∈ components path ↔ isAbsolute path := by
  have none (stretch : String) : component? stretch ≠ some .root := by
    unfold component?
    split
    · exact nofun
    · split <;> exact nofun
  unfold components
  split
  · next absolute => simp [absolute]
  · next relative =>
    split <;> simp [relative, none]

theorem resolve_eq_some_iff : resolve root path = some target ↔
    ∃ names, names ≠ [] ∧ names? path = some names ∧ target = below root names := by
  unfold resolve
  cases names? path with
  | none => simp
  | some names =>
      cases names with
      | nil => simp
      | cons n names => simp [eq_comm]

theorem isSome_resolve_iff : (resolve root path).isSome ↔ Confined path := by
  have climbed : (names? path).isSome ↔ _ := isSome_foldlM_climb_iff
  constructor
  · intro resolved
    obtain ⟨target, resolved⟩ := Option.isSome_iff_exists.1 resolved
    obtain ⟨names, filled, leaves, -⟩ := resolve_eq_some_iff.1 resolved
    obtain ⟨unrooted, inside⟩ := climbed.1 (by simp [leaves])
    have balance := length_foldlM_climb leaves
    have some : names.length ≠ 0 := by simpa using filled
    constructor
    · simpa [root_mem_components_iff] using unrooted
    · simpa using inside
    · rw [List.length_nil] at balance
      omega
  · rintro ⟨relative, inside, beneath⟩
    have unrooted : .root ∉ components path := by simp [root_mem_components_iff, relative]
    obtain ⟨names, leaves⟩ := Option.isSome_iff_exists.1 (climbed.2 ⟨unrooted, by simpa using inside⟩)
    have balance := length_foldlM_climb leaves
    apply Option.isSome_iff_exists.2
    refine ⟨_, resolve_eq_some_iff.2 ⟨names, ?_, leaves, rfl⟩⟩
    rintro rfl
    rw [List.length_nil] at balance
    omega

theorem join_eq_opened (root : String) (name : IsName n) : join root n = opened root ++ n := by
  by_cases isOpen : IsOpen root
  · rw [join_of_isOpen isOpen name, opened, if_pos isOpen]
  · rw [join_of_not_isOpen isOpen name, opened, if_neg isOpen]

theorem below_eq_opened (named : ∀ m ∈ n :: names, IsName m) :
    below root (n :: names) = opened root ++ "/".intercalate (n :: names) := by
  induction names generalizing root n with
  | nil =>
      rw [String.intercalate_singleton]
      exact join_eq_opened root (named n List.mem_cons_self)
  | cons m names ih =>
      obtain ⟨name, rest⟩ := List.forall_mem_cons.1 named
      calc
        below root (n :: m :: names) = below (join root n) (m :: names) := rfl
        _ = join root n ++ "/" ++ "/".intercalate (m :: names) := by
            rw [ih rest, opened, if_neg (not_isOpen_join root name)]
        _ = opened root ++ "/".intercalate (n :: m :: names) := by
            rw [join_eq_opened root name, String.intercalate_cons_cons]
            simp only [String.append_assoc]

theorem isAbsolute_below (named : ∀ m ∈ n :: names, IsName m) :
    isAbsolute (below root (n :: names)) = isAbsolute root := by
  rw [below_eq_opened named]
  by_cases empty : root = ""
  · subst empty
    have relative : isAbsolute (spell false (n :: names)) = false := isAbsolute_spell named
    exact relative
  · have kept : isAbsolute (opened root) = isAbsolute root := by
      unfold opened
      split
      · rfl
      · exact isAbsolute_append empty "/"
    have filled : opened root ≠ "" := by
      unfold opened
      split
      · exact empty
      · simp
    rw [isAbsolute_append filled, kept]

theorem filterMap_lead (root : String) :
    (lead root).filterMap component? = (split root).filterMap component? := by
  by_cases isOpen : IsOpen root
  · rw [split_of_isOpen isOpen, List.filterMap_append]
    exact (List.append_nil _).symm
  · rw [lead, if_neg isOpen]

/-- A dot in front of a target is one in front of its directory. -/
theorem head?_lead (name : IsName n) :
    (lead root ++ n :: names).head? = some "." ↔ (split root).head? = some "." := by
  by_cases isOpen : IsOpen root
  · rw [split_of_isOpen isOpen]
    cases lead root with
    | nil => simp [name.2.1]
    | cons s lead => simp
  · rw [lead, if_neg isOpen]
    cases stretches : split root with
    | nil => exact absurd stretches (by simp [split, splitChars_ne_nil])
    | cons s rest => simp

/-- A target has the components of its directory, and after them the names. -/
theorem components_below (named : ∀ m ∈ n :: names, IsName m) :
    components (below root (n :: names)) = components root ++ (n :: names).map .name := by
  have dot : ((lead root ++ n :: names).head? == some ".") = ((split root).head? == some ".") := by
    rw [Bool.eq_iff_iff, beq_iff_eq, beq_iff_eq]
    exact head?_lead (named n List.mem_cons_self)
  unfold components
  rw [isAbsolute_below named, split_below named, dot, List.filterMap_append, filterMap_lead,
    filterMap_component? named]
  split
  · rfl
  · rw [List.append_assoc]

/-- Below any directory exactly the confined paths have a target. It is the directory followed by the
names of the path's lexical form, which resolve to the same target again, and it is shared with no
path of another lexical form. -/
theorem resolve_confines (root path : String) :
    ((resolve root path).isSome ↔ Confined path) ∧
    ∀ target, resolve root path = some target → ∃ names,
      names ≠ [] ∧ (∀ n ∈ names, IsName n) ∧
      names.length + (components path).count .parent =
        (components path).countP Component.isName ∧
      (∀ form, LexicalForm path form ↔ form = names.map .name) ∧
      target = opened root ++ "/".intercalate names ∧
      components target = components root ++ names.map .name ∧
      resolve root ("/".intercalate names) = some target ∧
      ∀ other target', resolve root other = some target' →
        (target = target' ↔ ∃ form, LexicalForm path form ∧ LexicalForm other form) := by
  refine ⟨isSome_resolve_iff, ?_⟩
  intro target resolved
  obtain ⟨names, filled, leaves, rfl⟩ := resolve_eq_some_iff.1 resolved
  have named := named_of_names? leaves
  have balance : names.length + _ = 0 + _ := length_foldlM_climb leaves
  obtain ⟨n, rest, rfl⟩ := List.exists_cons_of_ne_nil filled
  refine ⟨n :: rest, filled, named, by rw [balance, Nat.zero_add], fun _ => lexicalForm_iff leaves,
    below_eq_opened named, components_below named, ?_, ?_⟩
  · apply resolve_eq_some_iff.2
    refine ⟨n :: rest, filled, ?_, rfl⟩
    have spelled : spell false (n :: rest) = "/".intercalate (n :: rest) := String.empty_append
    rw [← spelled]
    exact names?_spell named
  · intro other target' resolved'
    obtain ⟨names', -, leaves', -⟩ := resolve_eq_some_iff.1 resolved'
    rw [resolve_eq_iff resolved resolved', leaves, leaves', Option.some.injEq]
    simp only [lexicalForm_iff leaves, lexicalForm_iff leaves', exists_eq_left]
    exact (List.map_inj_right fun _ _ => Component.name.inj).symm

/-- Two spellings of one path, one of which goes into a directory and out again. -/
theorem resolve_confines_spellings :
    let path := "src/gen/.././x.ts"
    let other := ".//src/x.ts"
    resolve "/out/" path = some "/out/src/x.ts" ∧ resolve "/out/" other = some "/out/src/x.ts" ∧
      Confined path ∧ ∃ form, LexicalForm path form ∧ LexicalForm other form := by
  intro path other
  have resolved : resolve "/out/" path = some "/out/src/x.ts" := by decide
  have resolved' : resolve "/out/" other = some "/out/src/x.ts" := by decide
  obtain ⟨accepts, settles⟩ := resolve_confines "/out/" path
  obtain ⟨_, -, -, -, -, -, -, -, shares⟩ := settles _ resolved
  have confined := accepts.1 (by rw [resolved]; rfl)
  exact ⟨resolved, resolved', confined, (shares other _ resolved').1 rfl⟩

/-- A path that climbs above its start on its way has no target, though it comes back. -/
example : resolve "out" "src/../../out/x.ts" = none ∧ resolve "out" "src/.." = none := by
  decide

end Targets

end Scaffold.Path
