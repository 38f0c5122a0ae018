import Scaffold.Proofs.FileTree.Look

/-!
How file trees change. Directories are made where nothing is, and files are written where no directory
is, each in a directory that is there. Nothing goes away by that, nothing changes its kind, and what
was looked at before looks the same.
-/

namespace Scaffold

open Scaffold.Path (IsName IsNormal spell)

namespace FileTree

variable {t u v : FileTree} {location : Location} {e : Entry}

/-- Whether every entry lies in a directory. -/
def Connected (t : FileTree) : Prop :=
  ∀ here name, t.get? (here ++ [name]) ≠ none → t.get? here = some .directory

theorem get?_ne_none_iff (filled : location ≠ []) :
    t.get? location ≠ none ↔ ∃ entry ∈ t.entries, entry.1 = location := by
  rw [get?_of_ne_nil filled, Ne, List.lookup_eq_none_iff]
  simp only [bne_iff_ne, not_forall, not_not, exists_prop, @eq_comm _ location]

theorem connected_iff :
    t.Connected ↔
      ∀ entry ∈ t.entries, entry.1 = [] ∨ t.get? entry.1.dropLast = some .directory := by
  constructor
  · intro connected entry member
    rcases List.eq_nil_or_concat' entry.1 with root | ⟨here, name, below⟩
    · exact .inl root
    · right
      rw [below, List.dropLast_concat]
      exact connected here name ((get?_ne_none_iff (by simp)).2 ⟨entry, member, below⟩)
  · intro lies here name present
    obtain ⟨entry, member, below⟩ := (get?_ne_none_iff (by simp)).1 present
    have inside := (lies entry member).resolve_left (by simp [below])
    rwa [below, List.dropLast_concat] at inside

instance : DecidablePred Connected :=
  fun _ => decidable_of_iff _ connected_iff.symm

/-- Whether all that one tree holds is in the other too, and of the same kind. -/
structure Within (t u : FileTree) : Prop where
  directory : ∀ {location}, t.get? location = some .directory →
    u.get? location = some .directory
  file : ∀ {location content mode}, t.get? location = some (.file content mode) →
    ∃ content' mode', u.get? location = some (.file content' mode')

namespace Within

theorem refl (t : FileTree) : t.Within t :=
  ⟨id, fun present => ⟨_, _, present⟩⟩

theorem trans (first : t.Within u) (second : u.Within v) : t.Within v where
  directory present := second.directory (first.directory present)
  file present := by
    obtain ⟨_, _, present⟩ := first.file present
    exact second.file present

theorem set_directory (filled : location ≠ []) (absent : t.get? location = none) :
    t.Within (t.set location .directory) where
  directory {other} present := by
    by_cases same : other = location
    · rw [same, get?_set_self filled]
    · rwa [get?_set_of_ne same]
  file {other _ _} present := by
    have apart : other ≠ location := by
      rintro rfl
      cases absent.symm.trans present
    exact ⟨_, _, (get?_set_of_ne apart).trans present⟩

theorem set_file {content : Text.Utf8.Bytes} {mode : Nat} (filled : location ≠ [])
    (free : t.get? location ≠ some .directory) :
    t.Within (t.set location (.file content mode)) where
  directory {other} present := by
    have apart : other ≠ location := by
      rintro rfl
      exact free present
    rwa [get?_set_of_ne apart]
  file {other _ _} present := by
    by_cases same : other = location
    · rw [same]
      exact ⟨_, _, get?_set_self filled⟩
    · exact ⟨_, _, (get?_set_of_ne same).trans present⟩

end Within

theorem Connected.set {here : Location} {name : String} (connected : t.Connected)
    (inside : t.get? here = some .directory) (within : t.Within (t.set (here ++ [name]) e)) :
    (t.set (here ++ [name]) e).Connected := by
  intro there other present
  by_cases same : there ++ [other] = here ++ [name]
  · rw [(List.append_inj' same rfl).1]
    exact within.directory inside
  · rw [get?_set_of_ne same] at present
    exact within.directory (connected there other present)

/-- One tree comes from another by making directories and writing files, at some locations each. -/
inductive Alters (made written : Location → Prop) (t : FileTree) : FileTree → Prop
  | refl : Alters made written t t
  | make {u : FileTree} {here : Location} {name : String} :
      Alters made written t u → u.get? here = some .directory →
      u.get? (here ++ [name]) = none → made (here ++ [name]) →
      Alters made written t (u.set (here ++ [name]) .directory)
  | write {u : FileTree} {here : Location} {name : String} {content : Text.Utf8.Bytes}
      {mode : Nat} :
      Alters made written t u → u.get? here = some .directory →
      u.get? (here ++ [name]) ≠ some .directory → written (here ++ [name]) →
      Alters made written t (u.set (here ++ [name]) (.file content mode))

namespace Alters

variable {made written made' written' : Location → Prop}

theorem mono (alters : t.Alters made written u) (wider : ∀ l, made l → made' l)
    (more : ∀ l, written l → written' l) : t.Alters made' written' u := by
  induction alters with
  | refl => exact .refl
  | make _ inside absent allowed ih => exact .make ih inside absent (wider _ allowed)
  | write _ inside free allowed ih => exact .write ih inside free (more _ allowed)

theorem trans (first : t.Alters made written u) (second : u.Alters made written v) :
    t.Alters made written v := by
  induction second with
  | refl => exact first
  | make _ inside absent allowed ih => exact .make ih inside absent allowed
  | write _ inside free allowed ih => exact .write ih inside free allowed

theorem within (alters : t.Alters made written u) : t.Within u := by
  induction alters with
  | refl => exact .refl t
  | make _ _ absent _ ih => exact ih.trans (.set_directory (by simp) absent)
  | write _ _ free _ ih => exact ih.trans (.set_file (by simp) free)

theorem connected (alters : t.Alters made written u) (connected : t.Connected) :
    u.Connected := by
  induction alters with
  | refl => exact connected
  | make _ inside absent _ ih => exact ih.set inside (.set_directory (by simp) absent)
  | write _ inside free _ ih => exact ih.set inside (.set_file (by simp) free)

theorem get?_eq (alters : t.Alters made written u) (unmade : ¬made location)
    (unwritten : ¬written location) : u.get? location = t.get? location := by
  induction alters with
  | refl => rfl
  | make _ _ _ allowed ih =>
      rw [get?_set_of_ne, ih]
      rintro rfl
      exact unmade allowed
  | write _ _ _ allowed ih =>
      rw [get?_set_of_ne, ih]
      rintro rfl
      exact unwritten allowed

theorem get?_of_some (alters : t.Alters made written u) (present : t.get? location = some e)
    (unwritten : ¬written location) : u.get? location = some e := by
  induction alters with
  | refl => exact present
  | make _ _ absent _ ih =>
      rw [get?_set_of_ne, ih]
      rintro rfl
      cases absent.symm.trans ih
  | write _ _ _ allowed ih =>
      rw [get?_set_of_ne, ih]
      rintro rfl
      exact unwritten allowed

theorem made_or_written (alters : t.Alters made written u) (absent : t.get? location = none)
    (present : u.get? location = some e) :
    (e = .directory ∧ made location) ∨ (e ≠ .directory ∧ written location) := by
  induction alters with
  | refl => cases absent.symm.trans present
  | @make u here name _ _ _ allowed ih =>
      by_cases same : location = here ++ [name]
      · subst same
        rw [get?_set_self (by simp)] at present
        exact .inl ⟨(Option.some.inj present).symm, allowed⟩
      · rw [get?_set_of_ne same] at present
        exact ih present
  | @write u here name _ _ _ _ _ allowed ih =>
      by_cases same : location = here ++ [name]
      · subst same
        rw [get?_set_self (by simp)] at present
        cases present
        exact .inr ⟨Entry.noConfusion, allowed⟩
      · rw [get?_set_of_ne same] at present
        exact ih present

theorem file_of_not_written {content : Text.Utf8.Bytes} {mode : Nat}
    (alters : t.Alters made written u) (unwritten : ¬written location)
    (present : u.get? location = some (.file content mode)) :
    t.get? location = some (.file content mode) := by
  cases before : t.get? location with
  | none =>
      rcases alters.made_or_written before present with ⟨directory, -⟩ | ⟨-, allowed⟩
      · cases directory
      · exact absurd allowed unwritten
  | some e => rw [← present, alters.get?_of_some before unwritten]

end Alters

section Looks

variable {names : Location} {n : String} {seen : Option Entry}

theorem ne_concat_of_isPrefix {here : Location} (first : here <+: names) : here ≠ names ++ [n] := by
  rintro rfl
  exact absurd first.length_le (by simp)

theorem look_concat_eq_ok_iff (named : ∀ m ∈ names ++ [n], IsName m) :
    t.look (names ++ [n]) = .ok seen ↔
      t.look names = .ok (some .directory) ∧ n.utf8ByteSize ≤ nameLimit ∧
        seen = t.get? (names ++ [n]) := by
  rw [look_concat named]
  cases t.look names with
  | error e => simp [Except.bind]
  | ok before =>
      rcases before with - | - | -
      · simp [Except.bind]
      · simp only [Except.bind]
        split
        · next long => exact iff_of_false (by simp) fun ⟨_, short, _⟩ => absurd long (by omega)
        · next short =>
          have short : n.utf8ByteSize ≤ nameLimit := by omega
          simp [short, eq_comm]
      · simp [Except.bind]

theorem look_congr (named : ∀ n ∈ names, IsName n)
    (alike : ∀ here, here <+: names → t.get? here = u.get? here) :
    t.look names = u.look names := by
  induction names using List.reverseRecOn with
  | nil => rfl
  | append_singleton names n ih =>
      have before : t.look names = u.look names :=
        ih (Path.named_concat_iff.1 named).1 fun here first =>
          alike here (first.trans (List.prefix_append _ _))
      rw [look_concat named, look_concat named, before, alike _ List.prefix_rfl]

/-- Whether something is in the way to a location, whatever is still added around it. -/
def Barred (t : FileTree) (names : Location) : Prop :=
  ∃ e, e ≠ .notFound ∧ t.look names = .error e

/-- Whether nothing is at a location and nothing is in the way. -/
def Vacant (t : FileTree) (names : Location) : Prop :=
  t.look names = .error .notFound ∨ t.look names = .ok none

theorem barred_concat_iff (named : ∀ m ∈ names ++ [n], IsName m) :
    t.Barred (names ++ [n]) ↔
      t.Barred names ∨ (∃ content mode, t.look names = .ok (some (.file content mode))) ∨
        (t.look names = .ok (some .directory) ∧ nameLimit < n.utf8ByteSize) := by
  unfold Barred
  rw [look_concat named]
  cases t.look names with
  | error e => simp [Except.bind]
  | ok before =>
      rcases before with - | - | -
      · simp [Except.bind]
      · simp only [Except.bind]
        split <;> simp_all
      · simp [Except.bind]

theorem not_vacant_iff :
    ¬t.Vacant names ↔ t.Barred names ∨ ∃ e, t.look names = .ok (some e) := by
  unfold Vacant Barred
  cases t.look names with
  | error e => simp
  | ok before => cases before <;> simp

end Looks

namespace Within

variable {names : Location} (within : t.Within u) (named : ∀ n ∈ names, IsName n)
include within named

theorem look_directory (looked : t.look names = .ok (some .directory)) :
    u.look names = .ok (some .directory) := by
  induction names using List.reverseRecOn with
  | nil => rfl
  | append_singleton names n ih =>
      obtain ⟨before, short, present⟩ := (look_concat_eq_ok_iff named).1 looked
      exact (look_concat_eq_ok_iff named).2
        ⟨ih (Path.named_concat_iff.1 named).1 before, short,
          (within.directory present.symm).symm⟩

theorem look_file {content : Text.Utf8.Bytes} {mode : Nat}
    (looked : t.look names = .ok (some (.file content mode))) :
    ∃ content' mode', u.look names = .ok (some (.file content' mode')) := by
  rcases List.eq_nil_or_concat' names with rfl | ⟨names, n, rfl⟩
  · cases looked
  · obtain ⟨before, short, present⟩ := (look_concat_eq_ok_iff named).1 looked
    obtain ⟨content', mode', present⟩ := within.file present.symm
    exact ⟨content', mode', (look_concat_eq_ok_iff named).2
      ⟨within.look_directory (Path.named_concat_iff.1 named).1 before, short, present.symm⟩⟩

theorem look_error {e : FileError} (other : e ≠ .notFound) (looked : t.look names = .error e) :
    u.look names = .error e := by
  induction names using List.reverseRecOn with
  | nil => cases looked
  | append_singleton names n ih =>
      have before := (Path.named_concat_iff.1 named).1
      rw [look_concat named] at looked ⊢
      cases found : t.look names with
      | error e' =>
          rw [found] at looked
          cases looked
          rw [ih before found]
          rfl
      | ok seen =>
          rw [found] at looked
          rcases seen with - | - | ⟨content, mode⟩
          · cases looked
            exact absurd rfl other
          · rw [within.look_directory before found]
            simp only [Except.bind] at looked ⊢
            split at looked
            · cases looked
              rw [if_pos (by assumption)]
            · cases looked
          · obtain ⟨content', mode', found⟩ := within.look_file before found
            rw [found]
            exact looked

end Within

section Paths

variable {path : String} {content : Text.Utf8.Bytes}

theorem read_eq_ok_iff (normal : IsNormal path) :
    t.read path = .ok content ↔
      Accepts path ∧ ∃ mode, t.look (Path.location path) = .ok (some (.file content mode)) := by
  obtain ⟨rooted, names, named, rfl⟩ := normal.exists_spell
  rw [Path.location_spell named]
  by_cases accepted : Accepts (spell rooted names)
  · rw [read_spell_eq_ok_iff named accepted, and_iff_right accepted]
  · obtain ⟨e, -, failed⟩ := exists_stat_eq_error accepted
    simp [accepted, read, failed, bind, Except.bind]

theorem isDirectory_iff (normal : IsNormal path) :
    t.isDirectory path = true ↔
      Accepts path ∧ t.look (Path.location path) = .ok (some .directory) := by
  obtain ⟨rooted, names, named, rfl⟩ := normal.exists_spell
  rw [Path.location_spell named]
  by_cases accepted : Accepts (spell rooted names)
  · rw [isDirectory_spell_iff named accepted, and_iff_right accepted]
  · obtain ⟨e, -, failed⟩ := exists_stat_eq_error accepted
    simp [accepted, isDirectory, failed]

theorem tryExists_of_read (held : t.read path = .ok content) : t.tryExists path = .ok true := by
  unfold read at held
  unfold tryExists
  cases found : t.stat path with
  | error e =>
      rw [found] at held
      cases held
  | ok => rfl

theorem tryExists_of_isDirectory (directory : t.isDirectory path = true) :
    t.tryExists path = .ok true := by
  unfold isDirectory at directory
  unfold tryExists
  cases found : t.stat path with
  | error e => simp [found] at directory
  | ok => rfl

theorem isDirectory_of_read {e : FileError} (there : t.tryExists path = .ok true)
    (failed : t.read path = .error e) : t.isDirectory path = true := by
  unfold tryExists at there
  unfold read at failed
  unfold isDirectory
  cases found : t.stat path with
  | error e =>
      rw [found] at there
      cases e <;> cases there
  | ok result =>
      obtain ⟨here, entry⟩ := result
      rw [found] at failed
      cases entry with
      | directory => rfl
      | file => cases failed

theorem accepts_of_tryExists {known : Bool} (filled : path ≠ "")
    (looked : t.tryExists path = .ok known) : Accepts path := by
  by_contra refused
  obtain ⟨e, other, failed⟩ := exists_stat_eq_error refused
  unfold tryExists at looked
  rw [failed] at looked
  cases e with
  | notFound => exact other filled rfl
  | _ => cases looked

/-- Whether a file can never come to a path: something is in the way, or a directory is there. -/
def Stuck (t : FileTree) (path : String) : Prop :=
  (∃ e, t.tryExists path = .error e) ∨ t.isDirectory path = true

theorem Stuck.read_ne_ok (stuck : t.Stuck path) : t.read path ≠ .ok content := by
  intro held
  rcases stuck with ⟨e, failed⟩ | directory
  · cases failed.symm.trans (tryExists_of_read held)
  · unfold isDirectory at directory
    unfold read at held
    cases found : t.stat path with
    | error e => simp [found] at directory
    | ok result =>
        obtain ⟨here, e⟩ := result
        rw [found] at held directory
        cases e with
        | directory => cases held
        | file => cases directory

theorem Stuck.tryExists_ne (stuck : t.Stuck path) : t.tryExists path ≠ .ok false := by
  rcases stuck with ⟨e, failed⟩ | directory
  · simp [failed]
  · simp [tryExists_of_isDirectory directory]

theorem tryExists_eq_ok_false_iff (normal : IsNormal path) (filled : path ≠ "") :
    t.tryExists path = .ok false ↔ Accepts path ∧ t.Vacant (Path.location path) := by
  obtain ⟨rooted, names, named, rfl⟩ := normal.exists_spell
  rw [Path.location_spell named]
  constructor
  · intro absent
    have accepted := accepts_of_tryExists filled absent
    rw [tryExists_spell named accepted] at absent
    refine ⟨accepted, ?_⟩
    unfold Vacant
    split at absent
    · next seen looked =>
      cases seen with
      | none => exact .inr looked
      | some => cases absent
    · next looked => exact .inl looked
    · cases absent
  · rintro ⟨accepted, missing | free⟩
    · rw [tryExists_spell named accepted, missing]
    · rw [tryExists_spell named accepted, free]
      rfl

/-- In a connected tree every entry is found, unless names on the way are too long. -/
theorem Connected.not_vacant (connected : t.Connected) {names : Location}
    (named : ∀ n ∈ names, IsName n) (present : t.get? names = some e) : ¬t.Vacant names := by
  rw [not_vacant_iff]
  induction names using List.reverseRecOn generalizing e with
  | nil => exact .inr ⟨_, rfl⟩
  | append_singleton names n ih =>
      have before := (Path.named_concat_iff.1 named).1
      have inside := connected names n (by simp [present])
      rcases ih before inside with blocked | ⟨entry, looked⟩
      · exact .inl ((barred_concat_iff named).2 (.inl blocked))
      · have directory : t.look names = .ok (some .directory) := by
          rw [looked, eq_get?_of_look looked, inside]
        by_cases short : n.utf8ByteSize ≤ nameLimit
        · exact .inr ⟨e, (look_concat_eq_ok_iff named).2 ⟨directory, short, present.symm⟩⟩
        · exact .inl ((barred_concat_iff named).2 (.inr (.inr ⟨directory, by omega⟩)))

theorem Connected.barred_of_file (connected : t.Connected) {names here : Location}
    (named : ∀ n ∈ names, IsName n) {mode : Nat} (first : here <+: names) (apart : here ≠ names)
    (present : t.get? here = some (.file content mode)) : t.Barred names := by
  induction names using List.reverseRecOn with
  | nil => exact absurd (List.prefix_nil.1 first) apart
  | append_singleton names n ih =>
      have before := (Path.named_concat_iff.1 named).1
      have first := (List.prefix_concat_iff.1 first).resolve_left apart
      rw [barred_concat_iff named]
      by_cases same : here = names
      · subst same
        rcases not_vacant_iff.1 (connected.not_vacant before present) with blocked | ⟨entry, looked⟩
        · exact .inl blocked
        · exact .inr (.inl ⟨content, mode, by rw [looked, eq_get?_of_look looked, present]⟩)
      · exact .inl (ih before first same)

theorem tryExists_of_barred (normal : IsNormal path) (accepted : Accepts path)
    (blocked : t.Barred (Path.location path)) : ∃ e, t.tryExists path = .error e := by
  obtain ⟨rooted, names, named, rfl⟩ := normal.exists_spell
  rw [Path.location_spell named] at blocked
  obtain ⟨e, other, looked⟩ := blocked
  refine ⟨e, ?_⟩
  rw [tryExists_spell named accepted, looked]
  cases e <;> simp_all

theorem Connected.tryExists_ne (connected : t.Connected) (normal : IsNormal path)
    (filled : path ≠ "") (present : t.get? (Path.location path) = some e) :
    t.tryExists path ≠ .ok false := fun absent =>
  connected.not_vacant normal.named present
    ((tryExists_eq_ok_false_iff normal filled).1 absent).2

namespace Within

variable (within : t.Within u) (normal : IsNormal path)
include within normal

/-- What is known about a path remains true. -/
theorem tryExists_eq (settled : t.tryExists path ≠ .ok false) :
    u.tryExists path = t.tryExists path := by
  obtain ⟨rooted, names, named, rfl⟩ := normal.exists_spell
  by_cases accepted : Accepts (spell rooted names)
  · rw [tryExists_spell named accepted] at settled ⊢
    rw [tryExists_spell named accepted]
    cases looked : t.look names with
    | error e =>
        rw [looked] at settled
        have other : e ≠ .notFound := by
          rintro rfl
          exact settled rfl
        rw [within.look_error named other looked]
    | ok seen =>
        rw [looked] at settled
        rcases seen with - | - | ⟨_, _⟩
        · exact absurd rfl settled
        · rw [within.look_directory named looked]
        · obtain ⟨_, _, looked⟩ := within.look_file named looked
          rw [looked]
          rfl
  · obtain ⟨e, -, failed⟩ := exists_stat_eq_error accepted
    unfold tryExists
    rw [failed, failed]

theorem isDirectory (directory : t.isDirectory path = true) : u.isDirectory path = true := by
  obtain ⟨accepted, looked⟩ := (isDirectory_iff normal).1 directory
  exact (isDirectory_iff normal).2 ⟨accepted, within.look_directory normal.named looked⟩

theorem exists_read (held : t.read path = .ok content) :
    ∃ content', u.read path = .ok content' := by
  obtain ⟨accepted, mode, looked⟩ := (read_eq_ok_iff normal).1 held
  obtain ⟨content', mode', looked⟩ := within.look_file normal.named looked
  exact ⟨content', (read_eq_ok_iff normal).2 ⟨accepted, mode', looked⟩⟩

/-- What can be read later could be read before, if it was there or in the way before. -/
theorem exists_read_of_known (known : t.tryExists path ≠ .ok false)
    (held : u.read path = .ok content) : ∃ old, t.read path = .ok old := by
  have there : t.tryExists path = .ok true :=
    (within.tryExists_eq normal known).symm.trans (tryExists_of_read held)
  cases before : t.read path with
  | ok old => exact ⟨old, rfl⟩
  | error e =>
      have stuck : u.Stuck path := .inr (within.isDirectory normal (isDirectory_of_read there before))
      exact absurd held stuck.read_ne_ok

theorem read_eq (same : u.get? (Path.location path) = t.get? (Path.location path))
    (held : t.read path = .ok content) : u.read path = .ok content := by
  obtain ⟨accepted, mode, looked⟩ := (read_eq_ok_iff normal).1 held
  obtain ⟨content', mode', looked'⟩ := within.look_file normal.named looked
  have alike : some (Entry.file content' mode') = some (.file content mode) := by
    rw [eq_get?_of_look looked', same, ← eq_get?_of_look looked]
  exact (read_eq_ok_iff normal).2 ⟨accepted, mode, alike ▸ looked'⟩

theorem stuck (stuck : t.Stuck path) : u.Stuck path := by
  rcases stuck with ⟨e, failed⟩ | directory
  · exact .inl ⟨e, (within.tryExists_eq normal (by simp [failed])).trans failed⟩
  · exact .inr (within.isDirectory normal directory)

end Within

theorem Alters.read_eq {made written : Location → Prop} (alters : t.Alters made written u)
    (normal : IsNormal path) (unwritten : ¬written (Path.location path))
    (held : t.read path = .ok content) : u.read path = .ok content := by
  refine alters.within.read_eq normal ?_ held
  obtain ⟨-, mode, looked⟩ := (read_eq_ok_iff normal).1 held
  rw [← eq_get?_of_look looked, alters.get?_of_some (eq_get?_of_look looked).symm unwritten]

end Paths

end FileTree

end Scaffold
