import Mathlib.Data.List.TakeWhile

/-!
Greedy reading. A text is read as one run after the other, each the longest one that its language
allows; so there is one way to read it.
-/

namespace Scaffold.Text

abbrev Language := List Char → Prop

namespace Language

def RunOf (p : Char → Bool) : Language :=
  fun run => ∀ c ∈ run, p c

def Many (p : Char → Bool) : Language :=
  fun run => run ≠ [] ∧ RunOf p run

def One (p : Char → Bool) : Language :=
  fun run => ∃ c, run = [c] ∧ p c

def Either (L M : Language) : Language :=
  fun run => L run ∨ M run

def After (mark : Char) (L : Language) : Language :=
  fun run => ∃ later, run = mark :: later ∧ L later

def Optional (L : Language) : Language :=
  fun run => run = [] ∨ L run

/-- No run of the language starts the text. -/
def Absent (L : Language) (cs : List Char) : Prop :=
  ∀ run, run <+: cs → ¬L run

end Language

open Text.Language

/-- The text is a run of the language and the rest, and no longer run of the language starts it. -/
structure Longest (L : Language) (cs run rest : List Char) : Prop where
  split : run ++ rest = cs
  belongs : L run
  most : ∀ other, other <+: cs → L other → other.length ≤ run.length

variable {L M : Language} {p : Char → Bool} {c mark : Char} {cs run rest : List Char}

theorem Longest.unique {run' rest' : List Char} (longest : Longest L cs run rest)
    (longest' : Longest L cs run' rest') : run = run' ∧ rest = rest' := by
  have starts : run <+: cs := ⟨rest, longest.split⟩
  have starts' : run' <+: cs := ⟨rest', longest'.split⟩
  have size : run.length = run'.length :=
    Nat.le_antisymm (longest'.most run starts longest.belongs)
      (longest.most run' starts' longest'.belongs)
  have same : run = run' :=
    (List.prefix_of_prefix_length_le starts starts' (Nat.le_of_eq size)).eq_of_length size
  subst same
  exact ⟨rfl, List.append_cancel_left (longest.split.trans longest'.split.symm)⟩

theorem Longest.not_absent (longest : Longest L cs run rest) : ¬Absent L cs :=
  fun absent => absent run ⟨rest, longest.split⟩ longest.belongs

/-- A run is the longest one if the next character does not occur in the language. -/
theorem longest_of_stops (belongs : L run) (stops : ∀ c ∈ rest.head?, ∀ other, L other → c ∉ other) :
    Longest L (run ++ rest) run rest where
  split := rfl
  belongs := belongs
  most := by
    intro other starts inside
    by_contra longer
    obtain ⟨more, rfl⟩ :=
      List.prefix_of_prefix_length_le (List.prefix_append run rest) starts (by omega)
    cases more with
    | nil => simp at longer
    | cons c more =>
        have next : c :: more <+: rest := (List.prefix_append_right_inj run).1 starts
        obtain ⟨after, rfl⟩ := next
        exact stops c rfl _ inside (by simp)

theorem longest_runOf (all : RunOf p run) (stops : ∀ c ∈ rest.head?, ¬p c) :
    Longest (RunOf p) (run ++ rest) run rest :=
  longest_of_stops all fun c next _ inside member => stops c next (inside c member)

theorem longest_many (all : Many p run) (stops : ∀ c ∈ rest.head?, ¬p c) :
    Longest (Many p) (run ++ rest) run rest :=
  longest_of_stops all fun c next _ inside member => stops c next (inside.2 c member)

theorem not_of_head?_dropWhile (p : Char → Bool) (cs : List Char) :
    ∀ c ∈ (cs.dropWhile p).head?, ¬p c := by
  intro c first
  have refused := List.head?_dropWhile_not p cs
  rw [Option.mem_def.1 first] at refused
  simp [refused]

theorem longest_takeWhile (p : Char → Bool) (cs : List Char) :
    Longest (RunOf p) cs (cs.takeWhile p) (cs.dropWhile p) := by
  have longest : Longest (RunOf p) _ (cs.takeWhile p) (cs.dropWhile p) :=
    longest_runOf (fun _ => List.mem_takeWhile_imp) (not_of_head?_dropWhile p cs)
  rwa [List.takeWhile_append_dropWhile] at longest

theorem Longest.many (longest : Longest (RunOf p) cs run rest) (some : run ≠ []) :
    Longest (Many p) cs run rest where
  split := longest.split
  belongs := ⟨some, longest.belongs⟩
  most := fun other starts inside => longest.most other starts inside.2

theorem Longest.absent_many (longest : Longest (RunOf p) cs [] rest) : Absent (Many p) cs := by
  rintro run starts ⟨some, inside⟩
  exact some (List.length_eq_zero_iff.1 (Nat.le_zero.1 (longest.most run starts inside)))

theorem longest_takeWhile_cons (here : p c) (cs : List Char) :
    Longest (Many p) (c :: cs) ((c :: cs).takeWhile p) ((c :: cs).dropWhile p) :=
  (longest_takeWhile p (c :: cs)).many (by simp [here])

theorem absent_many (stops : ∀ c ∈ cs.head?, ¬p c) : Absent (Many p) cs := by
  rintro (_ | ⟨c, run⟩) ⟨rest, rfl⟩ ⟨some, all⟩
  · exact some rfl
  · exact stops c rfl (all c List.mem_cons_self)

theorem longest_one (here : p c) (cs : List Char) : Longest (One p) (c :: cs) [c] cs where
  split := rfl
  belongs := ⟨c, rfl, here⟩
  most := by
    rintro other - ⟨d, rfl, -⟩
    exact Nat.le_refl _

theorem absent_one (stops : ∀ c ∈ cs.head?, ¬p c) : Absent (One p) cs := by
  rintro run ⟨rest, rfl⟩ ⟨c, rfl, here⟩
  exact stops c rfl here

theorem Longest.left (longest : Longest L cs run rest) (absent : Absent M cs) :
    Longest (Either L M) cs run rest where
  split := longest.split
  belongs := .inl longest.belongs
  most := by
    rintro other starts (left | right)
    · exact longest.most other starts left
    · exact absurd right (absent other starts)

theorem Longest.right (longest : Longest M cs run rest) (absent : Absent L cs) :
    Longest (Either L M) cs run rest where
  split := longest.split
  belongs := .inr longest.belongs
  most := by
    rintro other starts (left | right)
    · exact absurd left (absent other starts)
    · exact longest.most other starts right

theorem absent_either (left : Absent L cs) (right : Absent M cs) : Absent (Either L M) cs := by
  rintro run starts (inside | inside)
  · exact left run starts inside
  · exact right run starts inside

theorem Longest.after (mark : Char) (longest : Longest L cs run rest) :
    Longest (After mark L) (mark :: cs) (mark :: run) rest where
  split := congrArg (mark :: ·) longest.split
  belongs := ⟨run, rfl, longest.belongs⟩
  most := by
    rintro other starts ⟨later, rfl, inside⟩
    exact Nat.succ_le_succ (longest.most later (List.cons_prefix_cons.1 starts).2 inside)

theorem absent_after (absent : ∀ later, cs = mark :: later → Absent L later) :
    Absent (After mark L) cs := by
  rintro run ⟨rest, rfl⟩ ⟨later, rfl, inside⟩
  exact absent (later ++ rest) rfl later (List.prefix_append later rest) inside

theorem Longest.optional (longest : Longest L cs run rest) :
    Longest (Optional L) cs run rest where
  split := longest.split
  belongs := .inr longest.belongs
  most := by
    rintro other starts (rfl | belongs)
    · exact Nat.zero_le _
    · exact longest.most other starts belongs

theorem longest_nil (absent : Absent L cs) : Longest (Optional L) cs [] cs where
  split := rfl
  belongs := .inl rfl
  most := by
    rintro other starts (rfl | belongs)
    · exact Nat.le_refl _
    · exact absurd belongs (absent other starts)

/-- The first of some words that stands there is the longest, if none of them starts a later one. -/
theorem longest_find? {words : List (List Char)} {word : List Char}
    (ordered : words.Pairwise fun a b => ¬a.isPrefixOf b)
    (found : words.find? (·.isPrefixOf cs) = some word) :
    Longest (· ∈ words) cs word (cs.drop word.length) := by
  obtain ⟨starts, before, after, rfl, earlier⟩ := List.find?_eq_some_iff_append.1 found
  have starts : word <+: cs := List.isPrefixOf_iff_prefix.1 starts
  refine ⟨List.prefix_iff_eq_append.1 starts, by simp, ?_⟩
  intro other starts' member
  -- A word before this one would have been found, and one behind it is not started by it.
  rcases List.mem_append.1 member with first | later
  · have refused : other.isPrefixOf cs = false := by simpa using earlier other first
    rw [List.isPrefixOf_iff_prefix.2 starts'] at refused
    cases refused
  · rcases List.mem_cons.1 later with rfl | later
    · exact Nat.le_refl _
    · by_contra longer
      have inside : word <+: other :=
        List.prefix_of_prefix_length_le starts starts' (Nat.le_of_not_le longer)
      have ordered := (List.pairwise_append.1 ordered).2.1
      exact List.rel_of_pairwise_cons ordered later (List.isPrefixOf_iff_prefix.2 inside)

/-- The text is a run for each of the languages, each of them the longest, and the last rest. -/
inductive Scans : List Language → List Char → List (List Char) → List Char → Prop where
  | nil (cs : List Char) : Scans [] cs [] cs
  | cons {L : Language} {languages : List Language} {cs run rest : List Char}
      {runs : List (List Char)} {last : List Char} (first : Longest L cs run rest)
      (later : Scans languages rest runs last) : Scans (L :: languages) cs (run :: runs) last

namespace Scans

variable {languages more : List Language} {runs runs' : List (List Char)} {last last' : List Char}

theorem unique (scans : Scans languages cs runs last) (scans' : Scans languages cs runs' last') :
    runs = runs' ∧ last = last' := by
  induction scans generalizing runs' last' with
  | nil cs =>
      cases scans'
      exact ⟨rfl, rfl⟩
  | cons first later ih =>
      cases scans' with
      | cons first' later' =>
          obtain ⟨rfl, rfl⟩ := first.unique first'
          obtain ⟨rfl, rfl⟩ := ih later'
          exact ⟨rfl, rfl⟩

theorem append (scans : Scans languages cs runs last) (scans' : Scans more last runs' last') :
    Scans (languages ++ more) cs (runs ++ runs') last' := by
  induction scans with
  | nil cs => exact scans'
  | cons first later ih => exact .cons first (ih scans')

theorem split (scans : Scans (languages ++ more) cs (runs ++ runs') last)
    (size : runs.length = languages.length) :
    ∃ middle, Scans languages cs runs middle ∧ Scans more middle runs' last := by
  induction languages generalizing cs runs with
  | nil =>
      cases List.length_eq_zero_iff.1 size
      exact ⟨cs, .nil cs, scans⟩
  | cons L languages ih =>
      cases runs with
      | nil => cases size
      | cons run runs =>
          cases scans with
          | cons first later =>
              obtain ⟨middle, before, after⟩ := ih later (Nat.succ.inj size)
              exact ⟨middle, .cons first before, after⟩

end Scans

end Scaffold.Text
