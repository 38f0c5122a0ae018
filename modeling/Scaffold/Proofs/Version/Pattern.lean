import Scaffold.Proofs.Text.Greedy
import Scaffold.Proofs.Version.Grammar

/-!
The expression for versions, and that a search for it takes a text apart as the greedy reading does.
Only the first row of digits can be missing, and if it is, no other way to match finds one.
-/

namespace Scaffold.Version

open Text
open Text.Language
open Text.Regex (Match)

def numberPattern (index : Nat) : Regex :=
  ((Regex.char (· == '.')).seq
    (.group index ((Regex.plus isDecimalDigit).alt (.char isWildcard)))).optional

def tagPattern (index : Nat) : Regex :=
  ((Regex.char (· == '-')).seq (.group index (.plus isTagChar))).optional

/-- What is searched for, at the start of a text. -/
def pattern : Regex :=
  (Regex.star isBlank).seq <| (Regex.anyOf operators).optional.seq <| (Regex.star isBlank).seq <|
    (Regex.char isMark).optional.seq <| (Regex.group 1 (.plus isDecimalDigit)).seq <|
      (numberPattern 2).seq <| (numberPattern 3).seq <| tagPattern 4

/-- What the search captures in a reading that has a first number. -/
def Reading.groups (r : Reading) : List (Nat × List Char) :=
  (1, r.major) :: (captured 2 r.minor ++ (captured 3 r.patch ++ captured 4 r.tag))

theorem greedy_operators :
    (Regex.anyOf operators).optional.Greedy (Optional (· ∈ operators)) ungrouped :=
  (Regex.greedy_anyOf operators_ordered).optional rfl

theorem greedy_mark : (Regex.char isMark).optional.Greedy (Optional (One isMark)) ungrouped :=
  (Regex.greedy_char isMark).optional rfl

theorem greedy_numberPattern (index : Nat) :
    (numberPattern index).Greedy (Optional (After '.' Numeral)) (captured index) :=
  ((Regex.greedy_plus isDecimalDigit).alt (Regex.greedy_char isWildcard) absent_wildcard).marked
    '.' index

theorem greedy_tagPattern (index : Nat) :
    (tagPattern index).Greedy (Optional (After '-' (Many isTagChar))) (captured index) :=
  (Regex.greedy_plus isTagChar).marked '-' index

/-- However a text matches, a digit stands behind a preface. -/
theorem exists_digit_of_mem_ways {cs : List Char} {m : Match} (member : m ∈ pattern.ways cs) :
    ∃ lead operator gap mark c later, IsPreface lead operator gap mark ∧ isDecimalDigit c ∧
      cs = lead ++ (operator ++ (gap ++ (mark ++ c :: later))) := by
  obtain ⟨lead, blank, n, member, -⟩ := Regex.mem_seq.1 member
  obtain ⟨operator, ranged, n, member, -⟩ := Regex.mem_seq.1 member
  obtain ⟨gap, blank', n, member, -⟩ := Regex.mem_seq.1 member
  obtain ⟨mark, marked, n, member, -⟩ := Regex.mem_seq.1 member
  obtain ⟨major, grouped, -⟩ := Regex.mem_seq.1 member
  obtain ⟨row, digits, -⟩ := List.mem_map.1 grouped
  obtain ⟨c, later, digit, number⟩ := Regex.mem_plus digits
  have known : Optional (· ∈ operators) operator.text := by
    rcases Regex.mem_optional.1 ranged with word | rfl
    · exact .inr (Regex.mem_anyOf word)
    · exact .inl rfl
  have optional : Optional (One isMark) mark.text := by
    rcases Regex.mem_optional.1 marked with v | rfl
    · obtain ⟨d, here, -, text⟩ := Regex.mem_char v
      exact .inr ⟨d, text, here⟩
    · exact .inl rfl
  refine ⟨lead.text, operator.text, gap.text, mark.text, c, later,
    ⟨Regex.all_of_mem_star blank, known, Regex.all_of_mem_star blank', optional⟩, digit, ?_⟩
  rw [← number, Regex.text_append_rest marked, Regex.text_append_rest blank',
    Regex.text_append_rest ranged, Regex.text_append_rest blank]

theorem find?_pattern {r : Reading} {cs : List Char} (reads : r.Reads cs) :
    (pattern.find? cs).map (·.groups) = if r.major = [] then none else some r.groups := by
  split
  · next none =>
    -- Any match, also one that gives characters back, has a digit that the greedy reading meets.
    rw [Option.map_eq_none_iff, Option.eq_none_iff_forall_ne_some]
    intro m found
    obtain ⟨lead, operator, gap, mark, c, later, preface, digit, rfl⟩ :=
      exists_digit_of_mem_ways (Regex.mem_of_find? found)
    exact preface.major_ne_nil digit reads none
  · next some =>
    obtain ⟨lead, operator, gap, mark, major, minor, patch, tag, rest⟩ := r
    rcases reads with _ | ⟨blank, _ | ⟨ranged, _ | ⟨blank', _ | ⟨marked, _ | ⟨first, _ | ⟨second,
      _ | ⟨third, _ | ⟨tagged, _ | _⟩⟩⟩⟩⟩⟩⟩⟩
    have numbered := (Regex.greedy_plus isDecimalDigit).group 1
    have found :=
      Regex.find?_seq ((Regex.greedy_star isBlank).find?_eq blank) <|
        Regex.find?_seq (greedy_operators.find?_eq ranged) <|
          Regex.find?_seq ((Regex.greedy_star isBlank).find?_eq blank') <|
            Regex.find?_seq (greedy_mark.find?_eq marked) <|
              Regex.find?_seq (numbered.find?_eq (first.many some)) <|
                Regex.find?_seq ((greedy_numberPattern 2).find?_eq second) <|
                  Regex.find?_seq ((greedy_numberPattern 3).find?_eq third) <|
                    (greedy_tagPattern 4).find?_eq tagged
    exact congrArg (Option.map (·.groups)) found

example : (pattern.find? "^1.x-rc.1 <2".toList).map (·.groups) =
    some [(1, ['1']), (2, ['x']), (4, ['r', 'c', '.', '1'])] := by
  decide

end Scaffold.Version
