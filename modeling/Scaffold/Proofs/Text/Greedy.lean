import Scaffold.Proofs.Text.Backtracking
import Scaffold.Proofs.Text.Scanning

/-!
Expressions for which the match that is tried first is the longest run of a language. Nothing of it ever
has to be given back.
-/

namespace Scaffold.Text

open Text.Language

/-- A search finds the longest run of the language, and groups that depend on the run alone. -/
structure Regex.Greedy (e : Regex) (L : Language) (groups : List Char → List (Nat × List Char)) :
    Prop where
  found : ∀ {cs : List Char} {m : Regex.Match}, e.find? cs = some m →
    Longest L cs m.text m.rest ∧ m.groups = groups m.text
  missed : ∀ {cs : List Char}, e.find? cs = none → Absent L cs

def ungrouped : List Char → List (Nat × List Char) :=
  fun _ => []

/-- One group, around all of a run but its first character. -/
def captured (index : Nat) : List Char → List (Nat × List Char)
  | [] => []
  | _ :: run => [(index, run)]

namespace Regex

variable {e first second : Regex} {L M : Language} {p : Char → Bool} {cs run rest : List Char}
  {groups : List Char → List (Nat × List Char)}

theorem Greedy.find?_eq (greedy : e.Greedy L groups) (longest : Longest L cs run rest) :
    e.find? cs = some ⟨run, groups run, rest⟩ := by
  cases result : e.find? cs with
  | none => exact absurd (greedy.missed result) longest.not_absent
  | some m =>
      obtain ⟨longest', grouped⟩ := greedy.found result
      obtain ⟨rfl, rfl⟩ := longest.unique longest'
      rw [← grouped]

theorem Greedy.congr {groups' : List Char → List (Nat × List Char)} (greedy : e.Greedy L groups)
    (agree : ∀ run, L run → groups run = groups' run) : e.Greedy L groups' where
  found := by
    intro cs m result
    obtain ⟨longest, grouped⟩ := greedy.found result
    exact ⟨longest, grouped.trans (agree _ longest.belongs)⟩
  missed := greedy.missed

theorem greedy_char (p : Char → Bool) : (char p).Greedy (One p) ungrouped where
  found := by
    rintro (_ | ⟨c, cs⟩) m result
    · cases result
    · rw [find?_char_cons] at result
      split at result
      · next here =>
        cases result
        exact ⟨longest_one here cs, rfl⟩
      · cases result
  missed := by
    rintro (_ | ⟨c, cs⟩) result
    · exact absent_one (by simp)
    · rw [find?_char_cons] at result
      split at result
      · cases result
      · next other => exact absent_one (by simpa using other)

theorem greedy_star (p : Char → Bool) : (star p).Greedy (RunOf p) ungrouped where
  found := by
    intro cs m result
    rw [find?_star] at result
    cases result
    exact ⟨longest_takeWhile p cs, rfl⟩
  missed := by
    intro cs result
    rw [find?_star] at result
    cases result

theorem greedy_plus (p : Char → Bool) : (plus p).Greedy (Many p) ungrouped where
  found := by
    rintro (_ | ⟨c, cs⟩) m result
    · cases result
    · rw [find?_plus_cons] at result
      split at result
      · next here =>
        cases result
        exact ⟨longest_takeWhile_cons here cs, rfl⟩
      · cases result
  missed := by
    rintro (_ | ⟨c, cs⟩) result
    · exact absent_many (by simp)
    · rw [find?_plus_cons] at result
      split at result
      · cases result
      · next other => exact absent_many (by simpa using other)

theorem greedy_anyOf {words : List (List Char)}
    (ordered : words.Pairwise fun a b => ¬a.isPrefixOf b) :
    (anyOf words).Greedy (· ∈ words) ungrouped where
  found := by
    intro cs m result
    rw [find?_anyOf] at result
    obtain ⟨word, stands, rfl⟩ := Option.map_eq_some_iff.1 result
    exact ⟨longest_find? ordered stands, rfl⟩
  missed := by
    intro cs result run starts member
    rw [find?_anyOf, Option.map_eq_none_iff, List.find?_eq_none] at result
    exact result run member (List.isPrefixOf_iff_prefix.2 starts)

/-- Of two languages that never start the same text, each is read by its own expression. -/
theorem Greedy.alt (left : first.Greedy L groups) (right : second.Greedy M groups)
    (apart : ∀ {cs run rest}, Longest L cs run rest → Absent M cs) :
    (first.alt second).Greedy (Either L M) groups where
  found := by
    intro cs m result
    rw [find?_alt] at result
    cases here : first.find? cs with
    | some found =>
        rw [here] at result
        cases result
        obtain ⟨longest, grouped⟩ := left.found here
        exact ⟨longest.left (apart longest), grouped⟩
    | none =>
        rw [here] at result
        obtain ⟨longest, grouped⟩ := right.found result
        exact ⟨longest.right (left.missed here), grouped⟩
  missed := by
    intro cs result
    rw [find?_alt, Option.or_eq_none_iff] at result
    exact absent_either (left.missed result.1) (right.missed result.2)

theorem Greedy.group (index : Nat) (greedy : e.Greedy L groups) :
    (group index e).Greedy L fun run => (index, run) :: groups run where
  found := by
    intro cs m result
    rw [find?_group] at result
    obtain ⟨inner, found, rfl⟩ := Option.map_eq_some_iff.1 result
    obtain ⟨longest, grouped⟩ := greedy.found found
    exact ⟨longest, congrArg (_ :: ·) grouped⟩
  missed := by
    intro cs result
    rw [find?_group, Option.map_eq_none_iff] at result
    exact greedy.missed result

theorem Greedy.after (mark : Char) (greedy : e.Greedy L groups) :
    ((char (· == mark)).seq e).Greedy (After mark L) fun run => groups (run.drop 1) where
  found := by
    rintro (_ | ⟨c, cs⟩) m result
    · cases result
    · rw [find?_char_seq_cons] at result
      split at result
      · next here =>
        obtain ⟨inner, found, rfl⟩ := Option.map_eq_some_iff.1 result
        obtain ⟨longest, grouped⟩ := greedy.found found
        rw [beq_iff_eq] at here
        subst here
        exact ⟨longest.after c, grouped⟩
      · cases result
  missed := by
    rintro cs result
    apply absent_after
    rintro later rfl
    rw [find?_char_seq_cons, if_pos (beq_self_eq_true mark), Option.map_eq_none_iff] at result
    exact greedy.missed result

theorem Greedy.optional (greedy : e.Greedy L groups) (bare : groups [] = []) :
    e.optional.Greedy (Optional L) groups where
  found := by
    intro cs m result
    rw [find?_optional] at result
    cases here : e.find? cs with
    | some found =>
        rw [here] at result
        cases result
        obtain ⟨longest, grouped⟩ := greedy.found here
        exact ⟨longest.optional, grouped⟩
    | none =>
        rw [here] at result
        cases result
        exact ⟨longest_nil (greedy.missed here), bare.symm⟩
  missed := by
    intro cs result
    rw [find?_optional, Option.or_eq_none_iff] at result
    cases result.2

theorem Greedy.marked (mark : Char) (index : Nat) (greedy : e.Greedy L ungrouped) :
    ((char (· == mark)).seq (Regex.group index e)).optional.Greedy (Optional (After mark L))
      (captured index) := by
  apply Greedy.optional _ rfl
  apply ((greedy.group index).after mark).congr
  rintro run ⟨later, rfl, -⟩
  rfl

end Regex

end Scaffold.Text
